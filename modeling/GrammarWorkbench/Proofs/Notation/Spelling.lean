import GrammarWorkbench.Declaration.Read
import GrammarWorkbench.Proofs.Notation.Written

/-!
# Spelled characters decoded

The characters of a literal and the members of a set are decoded to what they were written for.
A member is decoded alone, since none starts with the dash that would make a range of the one before
it.
-/

set_option autoImplicit false

namespace GrammarWorkbench.Declaration

open GrammarWorkbench.Text GrammarWorkbench.Recognizer GrammarWorkbench.Diagnostic

section Literals

theorem decodeChars_literalChar (c : Char) {rest text : List Char}
    (h : decodeChars 0 rest = .ok text) :
    decodeChars 0 (literalChar c ++ rest) = .ok (c :: text) := by
  unfold literalChar
  split
  · simp [decodeChars, decodeEscape, shortEscape?, h, bind, Except.bind, pure, Except.pure]
  · simp [decodeChars, decodeEscape, shortEscape?, h, bind, Except.bind, pure, Except.pure]
  · simp [decodeChars, decodeEscape, shortEscape?, h, bind, Except.bind, pure, Except.pure]
  · simp [decodeChars, decodeEscape, shortEscape?, h, bind, Except.bind, pure, Except.pure]
  · rename_i hslash
    have hne : c ≠ '\\' := hslash
    simp [decodeChars, hne, h, bind, Except.bind, pure, Except.pure]

theorem decodeChars_literal (text : List Char) :
    decodeChars 0 (text.flatMap literalChar) = .ok text := by
  induction text with
  | nil => rfl
  | cons c text ih => exact decodeChars_literalChar c ih

theorem literalChar_ne_nil (c : Char) : literalChar c ≠ [] := by
  unfold literalChar
  split <;> simp

theorem decodeLiteral_literal {text : List Char} (h : text ≠ []) :
    decodeLiteral (text.flatMap literalChar) = .ok text := by
  obtain ⟨c, text, rfl⟩ := List.exists_cons_of_ne_nil h
  have hne : (List.flatMap literalChar (c :: text)).isEmpty = false := by
    simp [literalChar_ne_nil]
  rw [decodeLiteral, hne]
  exact decodeChars_literal _

theorem inner_literalWord (text : List Char) :
    inner (literalWord text) = text.flatMap literalChar := by
  simp [inner, literalWord]

theorem readLiteral_literalWord (source : List Char) {text : List Char} (h : text ≠ [])
    {n : PhraseNode} (hn : n.text = literalWord text) :
    readLiteral source n = pure (some text) := by
  rw [readLiteral, hn, inner_literalWord, decodeLiteral_literal h]

end Literals

section Sets

theorem decodeClassItems_skip (n : Nat) (cs : List Char) :
    decodeClassItems n cs = decodeClassItems 0 (cs.drop n) := by
  induction n generalizing cs with
  | zero => rfl
  | succ n ih =>
    cases cs with
    | nil => rfl
    | cons c cs => simpa [decodeClassItems] using ih cs

/-- A text that names a character at the beginning of a set, whatever stands behind it. It does not
start with the dash that would make a range of the character before it. -/
def NamesChar (part : List Char) (c : Char) : Prop :=
  ∃ d ds, part = d :: ds ∧ d ≠ '-' ∧
    ∀ rest, decodeClassAtom d (ds ++ rest) = .ok (.char c, ds.length)

theorem namesChar_setChar (c : Char) : NamesChar (setChar c) c := by
  unfold setChar
  split
  · exact ⟨_, _, rfl, by decide, fun _ => rfl⟩
  · exact ⟨_, _, rfl, by decide, fun _ => rfl⟩
  · exact ⟨_, _, rfl, by decide, fun _ => rfl⟩
  · exact ⟨_, _, rfl, by decide, fun _ => rfl⟩
  · exact ⟨_, _, rfl, by decide, fun _ => rfl⟩
  · rename_i hslash _ hdash
    have hne : c ≠ '\\' := hslash
    exact ⟨_, _, rfl, hdash, fun _ => by simp [decodeClassAtom, hne]⟩

/-- Whether a text starts with a dash that makes a range of the character before it. A dash at the
end of a set is a character. -/
def StartsRange (cs : List Char) : Prop := ∃ next rest, cs = '-' :: next :: rest

theorem not_startsRange {cs : List Char} (h : cs.head? ≠ some '-') : ¬ StartsRange cs := by
  rintro ⟨next, rest, rfl⟩
  exact h rfl

/-- A member that takes up a given text is decoded, and then the rest. -/
theorem decodeClassItems_member {c : Char} {cs rest : List Char} {item : ClassItem}
    (h : decodeClassItem c (cs ++ rest) = .ok (item, cs.length)) :
    decodeClassItems 0 (c :: cs ++ rest) = (decodeClassItems 0 rest).map (item :: ·) := by
  rw [List.cons_append, decodeClassItems, h]
  simp only [bind, Except.bind, decodeClassItems_skip cs.length, List.drop_left]
  cases decodeClassItems 0 rest <;> rfl

theorem decodeClassItems_char {part : List Char} {c : Char} (h : NamesChar part c)
    {rest : List Char} (hrest : ¬ StartsRange rest) :
    decodeClassItems 0 (part ++ rest) = (decodeClassItems 0 rest).map (.range c c :: ·) := by
  obtain ⟨d, ds, rfl, -, hatom⟩ := h
  apply decodeClassItems_member
  simp only [decodeClassItem, hatom, bind, Except.bind, List.drop_left]
  split
  · rename_i next more
    exact absurd ⟨next, more, rfl⟩ hrest
  · rfl

theorem decodeClassItems_range {low high : List Char} {lo hi : Char} (hlow : NamesChar low lo)
    (hhigh : NamesChar high hi) (h : lo ≤ hi) (rest : List Char) :
    decodeClassItems 0 (low ++ '-' :: high ++ rest) =
      (decodeClassItems 0 rest).map (.range lo hi :: ·) := by
  obtain ⟨d, ds, rfl, -, hatom⟩ := hlow
  obtain ⟨d', ds', rfl, -, hatom'⟩ := hhigh
  rw [List.cons_append]
  apply decodeClassItems_member
  have hnot : ¬ hi < lo := Char.not_lt.mpr h
  have htext : ds ++ '-' :: d' :: ds' ++ rest = ds ++ '-' :: d' :: (ds' ++ rest) := by simp
  rw [htext]
  simp only [decodeClassItem, hatom, bind, Except.bind, List.drop_left, hatom', if_neg hnot]
  simp [pure, Except.pure]
  omega

theorem untilBrace_name {name : List Char} (h : '\x7d' ∉ name) (rest : List Char) :
    untilBrace (name ++ '\x7d' :: rest) = (name, name.length + 1) := by
  have hname : ∀ c ∈ name, (c != '\x7d') = true := by
    intro c hc
    rw [bne_iff_ne]
    rintro rfl
    exact h hc
  simp only [untilBrace, List.takeWhile_append_of_pos hname]
  simp

theorem decodeClassItems_property {name : String} (negated : Bool) (hname : '\x7d' ∉ name.toList)
    (hne : name ≠ "") (rest : List Char) :
    decodeClassItems 0 ((ClassItem.property name negated).spelled ++ rest) =
      (decodeClassItems 0 rest).map (.property name negated :: ·) := by
  have hempty : name.toList.isEmpty = false := by simpa using hne
  have hspelled : (ClassItem.property name negated).spelled =
      '\\' :: (if negated then 'P' else 'p') :: '\x7b' :: (name.toList ++ ['\x7d']) := by
    simp [ClassItem.spelled]
  rw [hspelled]
  apply decodeClassItems_member
  cases negated <;>
    simp [decodeClassItem, decodeClassAtom, decodeSetEscape, isSetEscape, decodeProperty,
      untilBrace_name hname, hempty, Except.map, bind, Except.bind, pure, Except.pure]

theorem spelled_head (item : ClassItem) (cs : List Char) :
    (item.spelled ++ cs).head? ≠ some '-' := by
  cases item with
  | range lo hi =>
    obtain ⟨d, ds, hlo, hd, -⟩ := namesChar_setChar lo
    rw [ClassItem.spelled]
    split <;> simp [hlo, hd]
  | property name negated => simp [ClassItem.spelled]

theorem decodeClassItems_spelled {item : ClassItem} (hproper : item.Proper)
    (hnamed : ∀ negated, item ≠ .property "" negated) {rest : List Char}
    (hrest : rest.head? ≠ some '-') :
    decodeClassItems 0 (item.spelled ++ rest) = (decodeClassItems 0 rest).map (item :: ·) := by
  cases item with
  | range lo hi =>
    rw [ClassItem.spelled]
    split
    · rename_i heq
      subst heq
      exact decodeClassItems_char (namesChar_setChar lo) (not_startsRange hrest)
    · exact decodeClassItems_range (namesChar_setChar lo) (namesChar_setChar hi) hproper rest
  | property name negated =>
    refine decodeClassItems_property negated (fun hmem => hproper _ hmem (by decide)) ?_ rest
    rintro rfl
    exact hnamed negated rfl

theorem decodeClassItems_items {items : List ClassItem} (hproper : ∀ item ∈ items, item.Proper)
    (hnamed : ∀ item ∈ items, ∀ negated, item ≠ .property "" negated) :
    decodeClassItems 0 (items.flatMap ClassItem.spelled) = .ok items := by
  induction items with
  | nil => rfl
  | cons item items ih =>
    have hmore := ih (fun i hi => hproper i (List.mem_cons_of_mem _ hi))
      (fun i hi => hnamed i (List.mem_cons_of_mem _ hi))
    have hrest : (items.flatMap ClassItem.spelled).head? ≠ some '-' := by
      cases items with
      | nil => simp
      | cons next items => exact spelled_head next _
    rw [List.flatMap_cons, decodeClassItems_spelled (hproper item List.mem_cons_self)
      (hnamed item List.mem_cons_self) hrest, hmore]
    rfl

theorem inner_setWord (items : List ClassItem) :
    inner (setWord items) = items.flatMap ClassItem.spelled := by
  simp [inner, setWord]

theorem readCharSet_setWord (source : List Char) {items : List ClassItem}
    (hproper : ∀ item ∈ items, item.Proper) (hcomplete : ItemsComplete items)
    {n : PhraseNode} (hn : n.text = setWord items) :
    readCharSet source n = pure (some items) := by
  have hempty : items.isEmpty = false := by simpa using hcomplete.1
  have hdecode : decodeClass (inner n.text) = .ok items := by
    rw [hn, inner_setWord, decodeClass, decodeClassItems_items hproper hcomplete.2]
    simp [bind, Except.bind, hempty, pure, Except.pure]
  rw [readCharSet, hdecode]

end Sets

end GrammarWorkbench.Declaration
