import GrammarWorkbench.Proofs.Notation.Phrases

/-!
# Words read by token rules

Inside a token characters are taken one by one and nothing is skipped. Names, numbers, keywords,
literals, sets, operators and options are each read to their end. A keyword is refused at any other
name, also one that starts with it.
-/

set_option autoImplicit false

namespace GrammarWorkbench.Declaration

open GrammarWorkbench.Text GrammarWorkbench.Recognizer GrammarWorkbench.Declaration.Phrase

abbrev within (d : Nat) (e : Expr Phrase) : Matcher Phrase :=
  runExpr rules (runRule rules d true) true e

def Eats (d : Nat) (e : Expr Phrase) (cs rest : List Char) : Prop :=
  ∀ offset, Yields (within d e) ⟨cs ++ rest, offset⟩ [] ⟨rest, offset + byteLength cs⟩

def Balks (d : Nat) (e : Expr Phrase) (rest : List Char) : Prop :=
  ∀ offset, Fails (within d e) ⟨rest, offset⟩

section Eaten

variable {d : Nat} {e e₁ e₂ : Expr Phrase} {cs ds rest : List Char} {c : Char}
  {test : Char → Bool}

theorem Eats.char (hc : test c = true) : Eats d (.char test) [c] rest :=
  fun _ => yields_char rfl hc

theorem Eats.text (t : List Char) : Eats d (.text t) t rest := fun _ => yields_text rfl

theorem Eats.seq (h₁ : Eats d e₁ cs (ds ++ rest)) (h₂ : Eats d e₂ ds rest) :
    Eats d (.seq e₁ e₂) (cs ++ ds) rest := by
  intro offset
  rw [List.append_assoc, byteLength_append, ← Nat.add_assoc]
  exact yields_seq (h₁ offset) (h₂ _)

theorem Eats.choice_left (h : Eats d e₁ cs rest) : Eats d (.choice e₁ e₂) cs rest :=
  fun offset => yields_choice_left (h offset)

theorem Eats.choice_right (h₁ : Balks d e₁ (cs ++ rest)) (h₂ : Eats d e₂ cs rest) :
    Eats d (.choice e₁ e₂) cs rest :=
  fun offset => yields_choice_right (h₁ offset) (h₂ offset)

theorem Eats.optional (h : Eats d e cs rest) : Eats d (.optional e) cs rest :=
  fun offset => yields_optional (h offset)

theorem Eats.optional_missing (h : Balks d e rest) : Eats d (.optional e) [] rest :=
  fun offset => yields_optional_missing (h offset)

theorem Eats.unless (h : Balks d e rest) : Eats d (.unless e) [] rest :=
  fun offset => yields_unless (h offset)

theorem Balks.char (h : ∀ c ∈ rest.head?, test c = false) : Balks d (.char test) rest :=
  fun _ => fails_char h

theorem Balks.text {t : List Char} (h : ¬ t <+: rest) : Balks d (.text t) rest :=
  fun _ => fails_text h

theorem Balks.seq_left (h : Balks d e₁ rest) : Balks d (.seq e₁ e₂) rest :=
  fun offset => fails_seq_left (h offset)

theorem Balks.choice (h₁ : Balks d e₁ rest) (h₂ : Balks d e₂ rest) :
    Balks d (.choice e₁ e₂) rest :=
  fun offset => fails_choice (h₁ offset) (h₂ offset)

theorem repeats_flatMap {α : Type} {xs : List α} {f : α → List Char}
    (h : ∀ x ∈ xs, ∀ rest, Eats d e (f x) rest) (hstop : Balks d e rest) (offset : Nat) :
    Repeats (skipLayout rules true) (within d e) xs.length
      ⟨xs.flatMap f ++ rest, offset⟩ [] ⟨rest, offset + byteLength (xs.flatMap f)⟩ := by
  induction xs generalizing offset with
  | nil => exact .stop (hstop offset)
  | cons x xs ih =>
    have hfirst := h x List.mem_cons_self (xs.flatMap f ++ rest) offset
    have hmore := ih (fun y hy => h y (List.mem_cons_of_mem _ hy)) (offset + byteLength (f x))
    rw [List.flatMap_cons, List.append_assoc, byteLength_append, ← Nat.add_assoc]
    exact .next hfirst hmore

theorem length_le_length_flatMap {α : Type} {xs : List α} {f : α → List Char}
    (hne : ∀ x ∈ xs, f x ≠ []) : xs.length ≤ (xs.flatMap f).length := by
  induction xs with
  | nil => simp
  | cons x xs ih =>
    have hx := List.length_pos_iff.mpr (hne x List.mem_cons_self)
    have hmore := ih fun y hy => hne y (List.mem_cons_of_mem _ hy)
    simp only [List.flatMap_cons, List.length_append, List.length_cons]
    omega

/-- A repetition takes parts that its body takes whatever stands behind them. -/
theorem Eats.many {α : Type} {xs : List α} {f : α → List Char}
    (h : ∀ x ∈ xs, ∀ rest, Eats d e (f x) rest) (hne : ∀ x ∈ xs, f x ≠ [])
    (hstop : Balks d e rest) : Eats d (.many e) (xs.flatMap f) rest := by
  intro offset
  cases xs with
  | nil => exact yields_many_none (hstop offset)
  | cons x xs =>
    have hfirst := h x List.mem_cons_self (xs.flatMap f ++ rest) offset
    have hmore := repeats_flatMap (fun y hy => h y (List.mem_cons_of_mem _ hy)) hstop
      (offset + byteLength (f x))
    have hlength := length_le_length_flatMap fun y hy => hne y (List.mem_cons_of_mem x hy)
    rw [List.flatMap_cons, List.append_assoc, byteLength_append, ← Nat.add_assoc]
    refine yields_many hfirst hmore ?_
    simp only [List.length_append]
    omega

theorem Eats.many_char (h : ∀ c ∈ cs, test c = true) (hstop : ∀ c ∈ rest.head?, test c = false) :
    Eats d (.many (.char test)) cs rest := by
  have hmany := Eats.many (f := fun c => [c]) (fun c hc _ => Eats.char (d := d) (h c hc))
    (fun _ _ => List.cons_ne_nil _ _) (Balks.char hstop)
  rwa [List.flatMap_singleton'] at hmany

end Eaten

section Names

variable {d : Nat} {w : Word} {ws vs : List Word} {rest : List Char} {c : Char}

theorem isNameChar_eq_false (h : opens c = false) : isNameChar c = false := by
  simp only [opens, isLayoutBlank, Bool.and_eq_false_iff, Bool.not_eq_false', bne_eq_false_iff_eq,
    Bool.or_eq_true, beq_iff_eq] at h
  rcases h with ((((rfl | rfl) | rfl) | rfl) | rfl) | rfl <;> decide

theorem Apart.no_name (h : Apart rest) : ∀ c ∈ rest.head?, isNameChar c = false :=
  fun c hc => isNameChar_eq_false (h c hc)

theorem eats_identChar (hd : 1 ≤ d) (hc : isNameChar c = true) :
    Eats d (.rule .identChar) [c] rest := by
  obtain ⟨d, rfl⟩ := Nat.exists_eq_add_of_le' hd
  intro offset
  exact yields_silent rfl (Eats.char hc offset)

theorem balks_identChar (h : ∀ c ∈ rest.head?, isNameChar c = false) :
    Balks d (.rule .identChar) rest :=
  fun _ => fails_rule fun _ _ => fails_char h

theorem reads_name (hw : IsName w) (hd : 2 ≤ d) :
    Reads d (.rule .identifier) [w] vs (OfToken .identifier w) := by
  obtain ⟨c, cs, rfl⟩ : ∃ c cs, w = c :: cs := by
    cases w with
    | nil => exact hw.elim
    | cons c cs => exact ⟨c, cs, rfl⟩
  refine Reads.token rfl (by omega) fun rest offset hapart => ?_
  have hmany : Eats (d - 1) (.many (.rule .identChar)) (cs.flatMap fun c => [c]) rest :=
    Eats.many (fun c hc _ => eats_identChar (by omega) (hw.2 c hc))
      (fun _ _ => List.cons_ne_nil _ _) (balks_identChar hapart.no_name)
  rw [List.flatMap_singleton'] at hmany
  exact Eats.seq (Eats.char hw.1) hmany offset

theorem reads_number (hw : IsNumber w) (hd : 1 ≤ d) :
    Reads d (.rule .integer) [w] vs (OfToken .integer w) := by
  obtain ⟨c, cs, rfl⟩ := List.exists_cons_of_ne_nil hw.1
  refine Reads.token rfl hd fun rest offset hapart => ?_
  have hstop : ∀ c ∈ rest.head?, c.isDigit = false := by
    intro c hc
    have hname := hapart.no_name c hc
    simp only [isNameChar, Char.isAlphanum, Bool.or_eq_false_iff] at hname
    exact hname.1.2
  have hdigits := Eats.many_char (d := d - 1)
    (fun c hc => hw.2 c (List.mem_cons_of_mem _ hc)) hstop
  exact Eats.seq (Eats.char (hw.2 c List.mem_cons_self)) hdigits offset

end Names

section Keywords

variable {d : Nat} {w : Word} {ws vs : List Word} {r : Phrase} {s : String}

theorem reads_keyword (hr : style r = .token) (hbody : body r = keyword s) (hd : 1 ≤ d) :
    Reads d (.rule r) [s.toList] vs (OfToken r s.toList) := by
  refine Reads.token hr hd fun rest offset hapart => ?_
  have hword : Eats (d - 1) (keyword s) (s.toList ++ []) rest :=
    Eats.seq (Eats.text s.toList) (Eats.unless (balks_identChar hapart.no_name))
  rw [List.append_nil] at hword
  rw [hbody]
  exact hword offset

theorem opens_of_isNameChar {c : Char} (h : isNameChar c = true) : opens c = true := by
  rw [← Bool.not_eq_false]
  intro hc
  rw [isNameChar_eq_false hc] at h
  cases h

theorem isNameChar_of_isNameStart {c : Char} (h : isNameStart c = true) : isNameChar c = true := by
  simp only [isNameStart, Bool.or_eq_true] at h
  simp only [isNameChar, Char.isAlphanum, Bool.or_eq_true]
  exact h.imp_left Or.inl

theorem IsName.isNameChar (hw : IsName w) : ∀ c ∈ w, isNameChar c = true := by
  cases w with
  | nil => exact hw.elim
  | cons c cs =>
    intro b hb
    rcases List.mem_cons.mp hb with rfl | hb
    · exact isNameChar_of_isNameStart hw.1
    · exact hw.2 b hb

/-- A keyword is refused at every other name. One that only starts with it shows a further
character of a name behind it. -/
theorem refuses_keyword (hr : style r = .token) (hbody : body r = keyword s)
    (hs : s.toList.all isNameChar = true) (hd : 2 ≤ d) (hw : IsName w) (hne : w ≠ s.toList) :
    Refuses d (.rule r) (w :: ws) := by
  refine Refuses.token hr fun p hp => ?_
  rw [hbody]
  by_cases hstart : s.toList <+: p.rest
  · obtain ⟨more, rfl⟩ := hp.starts_word
      (fun c hc => opens_of_isNameChar (List.all_eq_true.mp hs c hc)) hstart
    obtain ⟨rest, hrest, -, -, -⟩ := hp.cons
    cases more with
    | nil => exact absurd (List.append_nil _) hne
    | cons c cs =>
      have hc : isNameChar c = true := hw.isNameChar c (by simp)
      have hlit : Yields (within (d - 1) (Expr.lit s)) p [] (p.after s.toList (c :: cs ++ rest)) :=
        yields_text (by simp [hrest])
      have hchar : Eats (d - 1) (.rule .identChar) [c] (cs ++ rest) :=
        eats_identChar (by omega) hc
      exact fails_seq_right hlit (fails_unless (hchar _))
  · exact fails_seq_left (fails_text hstart)

/-- What starts with a keyword is refused at every other name, and at the keyword if the words
behind it do not go on with it. -/
theorem refuses_seq_keyword {e : Expr Phrase} (hr : style r = .token) (hbody : body r = keyword s)
    (hs : s.toList.all isNameChar = true) (hd : 2 ≤ d) (hw : IsName w)
    (h : w = s.toList → Refuses d e ws) : Refuses d (.seq (.rule r) e) (w :: ws) := by
  by_cases heq : w = s.toList
  · have hws := h heq
    subst heq
    exact .seq_right (reads_keyword hr hbody (by omega)) hws
  · exact .seq_left (refuses_keyword hr hbody hs hd hw heq)

end Keywords

section Delimited

variable {d : Nat} {vs : List Word} {stop : String} {cs ds rest : List Char}

inductive Escaped (stop : String) : List Char → Prop
  | nil : Escaped stop []
  | pair {c : Char} {cs : List Char} (hcs : Escaped stop cs) : Escaped stop ('\\' :: c :: cs)
  | single {c : Char} {cs : List Char} (hc : c ∉ stop.toList) (hcs : Escaped stop cs) :
      Escaped stop (c :: cs)

theorem Escaped.append (h : Escaped stop cs) (h' : Escaped stop ds) : Escaped stop (cs ++ ds) := by
  induction h with
  | nil => exact h'
  | pair _ ih => exact .pair ih
  | single hc _ ih => exact .single hc ih

theorem Escaped.flatMap {α : Type} {xs : List α} {f : α → List Char}
    (h : ∀ x ∈ xs, Escaped stop (f x)) : Escaped stop (xs.flatMap f) := by
  induction xs with
  | nil => exact .nil
  | cons x xs ih =>
    exact (h x List.mem_cons_self).append (ih fun y hy => h y (List.mem_cons_of_mem _ hy))

theorem Escaped.parts (hstop : '\\' ∈ stop.toList) (h : Escaped stop cs) :
    ∃ parts : List (List Char), cs = parts.flatMap id ∧
      ∀ part ∈ parts, part ≠ [] ∧ ∀ rest, Eats d (escapedOr stop) part rest := by
  induction h with
  | nil => exact ⟨[], rfl, by simp⟩
  | @pair c cs _ ih =>
    obtain ⟨parts, rfl, hparts⟩ := ih
    refine ⟨['\\', c] :: parts, by simp, List.forall_mem_cons.mpr ⟨⟨by simp, ?_⟩, hparts⟩⟩
    intro rest
    exact .choice_left (.seq (.text ['\\']) (.char rfl))
  | @single c cs hc _ ih =>
    obtain ⟨parts, rfl, hparts⟩ := ih
    refine ⟨[c] :: parts, by simp, List.forall_mem_cons.mpr ⟨⟨by simp, ?_⟩, hparts⟩⟩
    intro rest
    have hslash : ¬ ['\\'] <+: [c] ++ rest := by
      rw [List.singleton_append, List.cons_prefix_cons]
      rintro ⟨rfl, -⟩
      exact hc hstop
    exact .choice_right (.seq_left (.text hslash)) (.char (by simpa using hc))

theorem reads_delimited {r : Phrase} {first last : Char} (hr : style r = .token)
    (hbody : body r = Expr.chain (.text [first]) [.many (escapedOr stop), .text [last]])
    (hstop : '\\' ∈ stop.toList) (hlast : last ∈ stop.toList) (hne : last ≠ '\\')
    (h : Escaped stop cs) (hd : 1 ≤ d) :
    Reads d (.rule r) [first :: cs ++ [last]] vs (OfToken r (first :: cs ++ [last])) := by
  refine Reads.token hr hd fun rest offset _ => ?_
  obtain ⟨parts, rfl, hparts⟩ := h.parts (d := d - 1) hstop
  have hbalks : Balks (d - 1) (escapedOr stop) ([last] ++ rest) := by
    refine .choice (.seq_left (.text ?_)) (.char ?_)
    · rw [List.singleton_append]
      simpa using Ne.symm hne
    · simpa using hlast
  have hmany : Eats (d - 1) (.many (escapedOr stop)) (parts.flatMap id) ([last] ++ rest) :=
    Eats.many (fun part hpart => (hparts part hpart).2) (fun part hpart => (hparts part hpart).1)
      hbalks
  rw [hbody]
  exact Eats.seq (.text [first]) (Eats.seq hmany (.text [last])) offset

theorem literalChar_escaped (c : Char) : Escaped "'\\\n\r" (literalChar c) := by
  unfold literalChar
  split
  · exact .pair .nil
  · exact .pair .nil
  · exact .pair .nil
  · exact .pair .nil
  · refine .single ?_ .nil
    simp_all

theorem reads_literal (text : List Char) (hd : 1 ≤ d) :
    Reads d (.rule .stringLiteral) [literalWord text] vs
      (OfToken .stringLiteral (literalWord text)) :=
  reads_delimited rfl rfl (by decide) (by decide) (by decide)
    (.flatMap fun c _ => literalChar_escaped c) hd

theorem setChar_escaped (c : Char) : Escaped "]\\\n\r" (setChar c) := by
  unfold setChar
  split
  · exact .pair .nil
  · exact .pair .nil
  · exact .pair .nil
  · exact .pair .nil
  · exact .pair .nil
  · refine .single ?_ .nil
    simp_all

theorem Escaped.of_notMem (h : ∀ c ∈ cs, c ∉ stop.toList) : Escaped stop cs := by
  induction cs with
  | nil => exact .nil
  | cons c cs ih =>
    exact .single (h c List.mem_cons_self) (ih fun b hb => h b (List.mem_cons_of_mem _ hb))

theorem ClassItem.Proper.escaped {item : ClassItem} (h : item.Proper) :
    Escaped "]\\\n\r" item.spelled := by
  cases item with
  | range lo hi =>
    rw [ClassItem.spelled]
    split
    · exact setChar_escaped lo
    · exact (setChar_escaped lo).append (.single (by decide) (setChar_escaped hi))
  | property name negated =>
    have hname : Escaped "]\\\n\r" name.toList := by
      refine .of_notMem fun c hc hstop => h c hc ?_
      have hsub : "]\\\n\r".toList ⊆ propertyStops := by decide
      exact hsub hstop
    exact .pair (.single (by decide) (hname.append (.single (by decide) .nil)))

theorem reads_set {items : List ClassItem} (h : ∀ item ∈ items, item.Proper) (hd : 1 ≤ d) :
    Reads d (.rule .charSet) [setWord items] vs (OfToken .charSet (setWord items)) :=
  reads_delimited rfl rfl (by decide) (by decide) (by decide)
    (.flatMap fun item hitem => (h item hitem).escaped) hd

end Delimited

section Marks

variable {d : Nat} {vs : List Word}

theorem reads_suffix (suffix : Suffix) (hd : 1 ≤ d) :
    Reads d (.rule .suffix) [suffix.word] vs (OfToken .suffix suffix.word) := by
  refine Reads.token rfl hd fun rest offset hapart => ?_
  obtain ⟨kind, greedy⟩ := suffix
  have hmark : ∀ rest, Eats (d - 1) (Expr.oneOf "?*+") [suffixMark kind] rest := by
    intro rest
    cases kind <;> exact .char (by decide)
  cases greedy with
  | true =>
    have hstop : ¬ "?".toList <+: rest := by
      rintro ⟨tail, rfl⟩
      exact absurd (hapart '?' rfl) (by decide)
    exact Eats.seq (hmark _) (.optional_missing (.text hstop)) offset
  | false => exact Eats.seq (hmark _) (.optional (.text ['?'])) offset

theorem reads_assoc (hd : 1 ≤ d) :
    Reads d (.rule .elementOptions) ["<assoc=right>".toList] vs
      (OfToken .elementOptions "<assoc=right>".toList) := by
  refine Reads.token rfl hd fun rest offset _ => ?_
  have hinside : Eats (d - 1) (.many (Expr.noneOf ">")) "assoc=right".toList (['>'] ++ rest) :=
    .many_char (List.all_eq_true.mp (by decide)) (by simp)
  exact Eats.seq (.text ['<']) (Eats.seq hinside (.text ['>'])) offset

end Marks

end GrammarWorkbench.Declaration
