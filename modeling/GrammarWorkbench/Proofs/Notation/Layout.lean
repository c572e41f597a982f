import GrammarWorkbench.Proofs.Notation.Matching
import GrammarWorkbench.Proofs.Notation.Written

/-!
# Layout between words

All layout before a word is skipped at once, whatever it is made of, and nothing of the word is. A
place stands `At` words or `Near` them, with layout in between.
-/

set_option autoImplicit false

namespace GrammarWorkbench.Declaration

open GrammarWorkbench.Text GrammarWorkbench.Recognizer GrammarWorkbench.Declaration.Phrase

def opens (c : Char) : Bool := !isLayoutBlank c && c != '/'

def Solid (w : Word) : Prop := ∃ c cs, w = c :: cs ∧ opens c = true

section Splitting

theorem splitAt?_comment {body : List Char} (h : ¬ ['*', '/'] <:+: body) (cs : List Char) :
    splitAt? ['*', '/'] (body ++ '*' :: '/' :: cs) = some (body, cs) := by
  induction body with
  | nil => simp [splitAt?]
  | cons c body ih =>
    have hbody : ¬ ['*', '/'] <:+: body := fun hin => h (List.infix_cons hin)
    have hstart : List.isPrefixOf ['*', '/'] (c :: (body ++ '*' :: '/' :: cs)) = false := by
      rw [Bool.eq_false_iff, Ne, List.isPrefixOf_iff_prefix, List.cons_prefix_cons]
      rintro ⟨rfl, hslash⟩
      cases body with
      | nil => simp at hslash
      | cons d body =>
        obtain ⟨rfl, -⟩ := List.cons_prefix_cons.mp hslash
        exact h ⟨[], body, rfl⟩
    simp [splitAt?, hstart, ih hbody]

theorem splitLayout_blank {c : Char} (hc : isLayoutBlank c = true) (n : Nat) (cs : List Char) :
    splitLayout n (c :: cs) = (c :: (splitLayout n cs).1, (splitLayout n cs).2) := by
  cases n with
  | zero => simp [splitLayout, hc]
  | succ n =>
    simp only [splitLayout, List.takeWhile_cons, List.dropWhile_cons, hc, if_true]
    split <;> rfl

theorem splitLayout_comment {cs comment rest : List Char} (hcs : cs.head? = some '/')
    (h : splitComment cs = some (comment, rest)) (n : Nat) :
    splitLayout (n + 1) cs = (comment ++ (splitLayout n rest).1, (splitLayout n rest).2) := by
  obtain ⟨tail, rfl⟩ := List.head?_eq_some_iff.mp hcs
  have hslash : isLayoutBlank '/' = false := by decide
  simp [splitLayout, hslash, h]

theorem splitLayout_open {rest : List Char} (h : ∀ c ∈ rest.head?, opens c = true) (n : Nat) :
    splitLayout n rest = ([], rest) := by
  cases rest with
  | nil => cases n <;> rfl
  | cons c cs =>
    have hc := h c rfl
    simp only [opens, Bool.and_eq_true, Bool.not_eq_true', bne_iff_ne] at hc
    have hcomment : splitComment (c :: cs) = none := by
      rw [splitComment.eq_def]
      split
      · rename_i heq
        cases heq
        exact absurd rfl hc.2
      · rename_i heq
        cases heq
        exact absurd rfl hc.2
      · rfl
    cases n with
    | zero => simp [splitLayout, hc.1]
    | succ n => simp [splitLayout, hc.1, hcomment]

theorem splitLayout_layout {gap : List Char} (h : Layout gap) {rest : List Char}
    (hrest : ∀ c ∈ rest.head?, opens c = true) {n : Nat} (hn : gap.length ≤ n) :
    splitLayout n (gap ++ rest) = (gap, rest) := by
  induction h generalizing n with
  | nil => exact splitLayout_open hrest n
  | blank hc _ ih =>
    rw [List.cons_append, splitLayout_blank hc, ih (Nat.le_of_succ_le hn)]
  | @block body cs hbody hcs ih =>
    simp only [List.length_append, List.length_cons] at hn
    obtain ⟨n, rfl⟩ := Nat.exists_eq_add_one_of_ne_zero (by omega : n ≠ 0)
    have hcomment : splitComment ('/' :: '*' :: (body ++ '*' :: '/' :: (cs ++ rest))) =
        some ('/' :: '*' :: body ++ ['*', '/'], cs ++ rest) := by
      simp [splitComment, splitAt?_comment hbody]
    have htext : '/' :: '*' :: body ++ '*' :: '/' :: cs ++ rest =
        '/' :: '*' :: (body ++ '*' :: '/' :: (cs ++ rest)) := by simp
    rw [htext, splitLayout_comment rfl hcomment, ih (by omega)]
    simp
  | @line body cs hbody hcs ih =>
    simp only [List.length_append, List.length_cons] at hn
    obtain ⟨n, rfl⟩ := Nat.exists_eq_add_one_of_ne_zero (by omega : n ≠ 0)
    have hbody' : ∀ c ∈ body, (c != '\n') = true := by
      intro c hc
      simp only [bne_iff_ne]
      rintro rfl
      exact hbody hc
    -- The line feed is left to the blanks behind the comment.
    have hcomment : splitComment ('/' :: '/' :: (body ++ '\n' :: (cs ++ rest))) =
        some ('/' :: '/' :: body, '\n' :: (cs ++ rest)) := by
      simp only [splitComment]
      rw [List.takeWhile_append_of_pos hbody', List.dropWhile_append_of_pos hbody']
      simp
    have htext : '/' :: '/' :: body ++ '\n' :: cs ++ rest =
        '/' :: '/' :: (body ++ '\n' :: (cs ++ rest)) := by simp
    rw [htext, splitLayout_comment rfl hcomment, splitLayout_blank (by decide), ih (by omega)]

end Splitting

def At (ws : List Word) (p : Place) : Prop := Spread ws p.rest ∧ ∀ w ∈ ws, Solid w

def Near (ws : List Word) (p : Place) : Prop :=
  ∃ gap rest, p.rest = gap ++ rest ∧ Layout gap ∧ Spread ws rest ∧ ∀ w ∈ ws, Solid w

def Apart (rest : List Char) : Prop := ∀ c ∈ rest.head?, opens c = false

section Places

variable {w : Word} {ws : List Word} {p : Place}

theorem At.near (h : At ws p) : Near ws p := ⟨[], p.rest, rfl, .nil, h⟩

theorem Spread.head_opens {text : List Char} (h : Spread ws text) (hws : ∀ w ∈ ws, Solid w) :
    ∀ c ∈ text.head?, opens c = true := by
  cases h with
  | nil => simp
  | cons =>
    obtain ⟨c, cs, rfl, hc⟩ := hws _ List.mem_cons_self
    simpa using hc

theorem Near.skipLayout (h : Near ws p) : At ws (skipLayout rules false p) := by
  obtain ⟨gap, rest, hp, hgap, hspread, hsolid⟩ := h
  have hsplit : rules.layout p.rest = (gap, rest) := by
    rw [hp]
    exact splitLayout_layout hgap (hspread.head_opens hsolid) (by simp)
  have hskip : (Recognizer.skipLayout rules false p).rest = rest := by
    simp [Recognizer.skipLayout, hsplit, Place.after]
  exact ⟨hskip ▸ hspread, hsolid⟩

theorem At.skipLayout_eq (h : At ws p) : Recognizer.skipLayout rules false p = p := by
  have hsplit : rules.layout p.rest = ([], p.rest) := splitLayout_open (h.1.head_opens h.2) _
  simp [Recognizer.skipLayout, hsplit, Place.after]

theorem Layout.apart {gap : List Char} (h : Layout gap) : Apart gap := by
  cases h with
  | nil => simp [Apart]
  | blank hc _ => simp [Apart, opens, hc]
  | block _ _ => simp [Apart, opens]
  | line _ _ => simp [Apart, opens]

theorem At.cons (h : At (w :: ws) p) :
    ∃ rest, p.rest = w ++ rest ∧ Solid w ∧ Apart rest ∧ ∀ offset, Near ws ⟨rest, offset⟩ := by
  obtain ⟨hspread, hsolid⟩ := h
  generalize hp : p.rest = text at hspread
  cases hspread with
  | @cons _ _ gap text hgap hapart hws =>
    have hmore : ∀ v ∈ ws, Solid v := fun v hv => hsolid v (List.mem_cons_of_mem _ hv)
    refine ⟨gap ++ text, List.append_assoc .., hsolid w List.mem_cons_self, ?_,
      fun offset => ⟨gap, text, rfl, hgap, hws, hmore⟩⟩
    cases gap with
    | cons c cs => simpa [Apart] using hgap.apart
    | nil =>
      -- Without layout behind it the word is the last one.
      have hlast : ws = [] := Classical.byContradiction fun hne => hapart hne rfl
      subst hlast
      cases hws
      simp [Apart]

theorem At.nil (h : At [] p) : p.rest = [] := by
  obtain ⟨hspread, -⟩ := h
  generalize p.rest = text at hspread
  cases hspread
  rfl

theorem Spread.length_le {text : List Char} (h : Spread ws text) (hws : ∀ w ∈ ws, Solid w) :
    ws.length ≤ text.length := by
  induction h with
  | nil => simp
  | @cons w ws gap text hgap hapart hspread ih =>
    have hmore := ih fun v hv => hws v (List.mem_cons_of_mem _ hv)
    obtain ⟨c, cs, rfl, -⟩ := hws w List.mem_cons_self
    simp only [List.length_cons, List.length_append]
    omega

theorem Near.length_le (h : Near ws p) : ws.length ≤ p.rest.length := by
  obtain ⟨gap, rest, hp, -, hspread, hsolid⟩ := h
  have hlength := hspread.length_le hsolid
  simp only [hp, List.length_append]
  omega

def firstChar (ws : List Word) : Option Char := ws.head?.bind List.head?

theorem At.head?_rest (h : At ws p) : p.rest.head? = firstChar ws := by
  cases ws with
  | nil => simp [h.nil, firstChar]
  | cons w ws =>
    obtain ⟨rest, hp, ⟨c, cs, rfl, -⟩, -, -⟩ := h.cons
    simp [hp, firstChar]

/-- A text of a word's characters that is at a place is at the start of the word there. -/
theorem At.starts_word (h : At (w :: ws) p) {t : List Char} (ht : ∀ c ∈ t, opens c = true)
    (hp : t <+: p.rest) : t <+: w := by
  obtain ⟨rest, hrest, -, hapart, -⟩ := h.cons
  obtain ⟨tail, htail⟩ := hp
  rw [hrest] at htail
  rcases List.append_eq_append_iff.mp htail with ⟨more, hw, -⟩ | ⟨more, rfl, hmore⟩
  · exact ⟨more, hw.symm⟩
  · cases more with
    | nil => simp
    | cons c cs =>
      have hc : opens c = true := ht c (by simp)
      have hc' := hapart c (by simp [hmore])
      rw [hc] at hc'
      cases hc'

end Places

end GrammarWorkbench.Declaration
