import GrammarWorkbench.Proofs.Pattern.Complement
import Mathlib.Algebra.BigOperators.Ring.List
import Mathlib.Data.Char

/-!
# Texts of the factored form

Preference is decided on the factored form of a pattern, in which sets are written by their ranges.
A set written this way has exactly the characters that it matched before, and every step of the
factoring keeps the texts: sequences are products of languages and choices are sums, so that joining
literals is associativity, and putting shared parts before a choice is distributivity.
-/

set_option autoImplicit false

namespace GrammarWorkbench.Text.CodeRanges

theorem toNat_ofNat {n : Nat} (h : IsCode n) : (Char.ofNat n).toNat = n := by
  have hvalid : n.isValidChar := by
    unfold IsCode lastCode at h
    unfold Nat.isValidChar
    omega
  rw [Char.ofNat, dif_pos hvalid]
  rfl

theorem charFrom_le_iff {n : Nat} (h : n ≤ lastCode) {c : Char} :
    charFrom n ≤ c ↔ n ≤ c.toNat := by
  have hc := isCode_toNat c
  have hn : IsCode (if 0xD800 ≤ n ∧ n ≤ 0xDFFF then 0xE000 else n) := by
    unfold IsCode lastCode at *
    split <;> omega
  rw [← Pattern.toNat_le_iff, charFrom, toNat_ofNat hn]
  unfold IsCode at hc
  split <;> omega

theorem le_charUpTo_iff {n : Nat} {c : Char} : c ≤ charUpTo n ↔ c.toNat ≤ n := by
  have hc := isCode_toNat c
  have hn : IsCode (if 0xD800 ≤ n ∧ n ≤ 0xDFFF then 0xD7FF else min n lastCode) := by
    unfold IsCode lastCode at *
    split <;> omega
  rw [← Pattern.toNat_le_iff, charUpTo, toNat_ofNat hn]
  unfold IsCode lastCode at *
  split <;> omega

/-- Ranges by their first and last characters have the same characters. -/
theorem exists_charRanges_iff {r : CodeRanges} {c : Char} :
    (∃ x ∈ r.charRanges, x.1 ≤ c ∧ c ≤ x.2) ↔ r.contains c := by
  have hlast := le_lastCode (isCode_toNat c)
  rw [contains_iff]
  constructor
  · rintro ⟨_, hx, hc⟩
    obtain ⟨⟨a, b⟩, hab, rfl⟩ := List.mem_map.mp hx
    obtain ⟨hmem, ha⟩ := List.mem_filter.mp hab
    exact ⟨(a, b), hmem, (charFrom_le_iff (of_decide_eq_true ha)).mp hc.1, le_charUpTo_iff.mp hc.2⟩
  · rintro ⟨⟨a, b⟩, hab, hlo, hhi⟩
    have ha : a ≤ lastCode := Nat.le_trans hlo hlast
    have hmem : (a, b) ∈ r.ranges.filter (·.1 ≤ lastCode) :=
      List.mem_filter.mpr ⟨hab, decide_eq_true ha⟩
    exact ⟨_, List.mem_map_of_mem hmem, (charFrom_le_iff ha).mpr hlo, le_charUpTo_iff.mpr hhi⟩

theorem contains_union {sets : List CodeRanges} {c : Char} :
    (union sets).contains c ↔ ∃ r ∈ sets, r.contains c := by
  simp only [contains_iff, union, within_inOrder]
  simp only [Within, List.mem_flatMap]
  constructor
  · rintro ⟨x, ⟨r, hr, hx⟩, hc⟩
    exact ⟨r, hr, x, hx, hc⟩
  · rintro ⟨r, hr, x, hx, hc⟩
    exact ⟨x, ⟨r, hr, hx⟩, hc⟩

theorem contains_all (c : Char) : all.contains c := by
  simp [contains_iff, all, le_lastCode (isCode_toNat c)]

end GrammarWorkbench.Text.CodeRanges

namespace GrammarWorkbench.Pattern

open GrammarWorkbench.Text GrammarWorkbench.Declaration GrammarWorkbench.Derivation
open scoped Computability

theorem CharSet.exact_ofCodes (codes : CodeRanges) : (ofCodes codes).Exact := by
  apply CharSet.Regular.exact
  constructor
  · intro p hp
    obtain ⟨x, -, rfl⟩ := List.mem_map.mp hp
    trivial
  · intro hnegated
    cases hnegated

theorem CharSet.mem_ofCodes {codes : CodeRanges} {c : Char} :
    c ∈ (ofCodes codes).members ↔ codes.contains c := by
  rw [← CodeRanges.exists_charRanges_iff]
  simp [CharSet.members, ofCodes, Piece.members]

theorem CharSet.contains_codes (s : CharSet) (c : Char) : s.codes.contains c ↔ s.contains c := by
  by_cases hnegated : s.negated
  · rw [CharSet.contains, if_pos hnegated]
  · rw [CharSet.contains, CharSet.codes, if_neg hnegated, if_neg hnegated, ← contains_ranges,
      CodeRanges.contains_iff, CodeRanges.contains_iff, CodeRanges.within_inOrder]

theorem CharSet.contains_ofCodes (s : CharSet) (c : Char) :
    (ofCodes s.codes).contains c ↔ s.contains c := by
  rw [exact_ofCodes, mem_ofCodes, contains_codes]

def ranged : Pattern → Pattern
  | one set => one (.ofCodes set.codes)
  | seq p q => seq (ranged p) (ranged q)
  | alt p q => alt (ranged p) (ranged q)
  | group p => group (ranged p)
  | loop kind greedy p => loop kind greedy (ranged p)
  | p => p

/-- Written by their ranges, sets are matched as they are written. -/
theorem ranged_exact (p : Pattern) : p.ranged.Exact := by
  induction p with
  | one set =>
    intro s hs
    rw [List.mem_singleton.mp hs]
    exact CharSet.exact_ofCodes _
  | seq p q ihp ihq | alt p q ihp ihq =>
    intro s hs
    rcases List.mem_append.mp hs with hs | hs
    · exact ihp s hs
    · exact ihq s hs
  | group p ih | loop kind greedy p ih => exact ih
  | nothing | literal text | anyChar => exact fun s hs => absurd hs List.not_mem_nil

/-- Parts of a sequence have a language, and the sets in them are matched as they are written. -/
structure Spells (ps : List Pattern) (l : Language Char) : Prop where
  exact : ∀ p ∈ ps, p.Exact
  words : (ps.map words).prod = l

structure Offers (bs : List (List Pattern)) (l : Language Char) : Prop where
  exact : ∀ ps ∈ bs, ∀ p ∈ ps, p.Exact
  words : (bs.map fun ps => (ps.map words).prod).sum = l

def codeWords (codes : CodeRanges) : Language Char := letters {c | codes.contains c}

section Parts

variable {p q : Pattern} {ps qs : List Pattern} {l m : Language Char}

theorem Spells.nil : Spells [] 1 := ⟨by simp, rfl⟩

theorem Spells.cons (hp : p.Exact) (hps : Spells ps l) : Spells (p :: ps) (p.words * l) where
  exact := by
    intro q hq
    rcases List.mem_cons.mp hq with rfl | hq
    · exact hp
    · exact hps.exact q hq
  words := by rw [List.map_cons, List.prod_cons, hps.words]

theorem Spells.single (hp : p.Exact) : Spells [p] p.words := by
  simpa using Spells.nil.cons hp

theorem Spells.tail (h : Spells (p :: ps) l) : Spells ps (ps.map Pattern.words).prod where
  exact q hq := h.exact q (List.mem_cons_of_mem _ hq)
  words := rfl

theorem Spells.ofParts (h : Spells ps l) : (ofParts ps).Exact ∧ (ofParts ps).words = l := by
  obtain ⟨hexact, rfl⟩ := h
  induction ps with
  | nil => exact ⟨fun s hs => absurd hs List.not_mem_nil, rfl⟩
  | cons p ps ih =>
    have hrest := ih fun q hq => hexact q (List.mem_cons_of_mem _ hq)
    have hp := hexact p List.mem_cons_self
    cases ps with
    | nil => exact ⟨hp, by simp [Pattern.ofParts]⟩
    | cons q qs =>
      constructor
      · intro s hs
        rcases List.mem_append.mp hs with hs | hs
        · exact hp s hs
        · exact hrest.1 s hs
      · rw [Pattern.ofParts, Pattern.words, hrest.2, List.map_cons, List.prod_cons]
        · rfl
        · exact List.cons_ne_nil q qs

theorem spells_parts (hp : p.Exact) : Spells (parts p) p.words := by
  induction p with
  | nothing => exact Spells.nil
  | seq p q _ ihq => exact (ihq hp.seq_right).cons hp.seq_left
  | literal _ | one _ | anyChar | alt _ _ | group _ | loop _ _ _ => exact Spells.single hp

theorem literal_exact (text : List Char) : (literal text).Exact := fun _ hs =>
  absurd hs List.not_mem_nil

theorem words_literal_append (s t : List Char) :
    (literal (s ++ t)).words = (literal s).words * (literal t).words := by
  ext w
  rw [mem_words_literal, Language.mem_mul]
  constructor
  · rintro rfl
    exact ⟨s, rfl, t, rfl, rfl⟩
  · rintro ⟨_, rfl, _, rfl, rfl⟩
    rfl

theorem Spells.prependPart (hp : p.Exact) (h : Spells ps l) :
    Spells (prependPart p ps) (p.words * l) := by
  fun_cases Pattern.prependPart p ps with
  | case1 s t ps =>
    have hjoined := h.tail.cons (literal_exact (s ++ t))
    rw [words_literal_append, mul_assoc] at hjoined
    rwa [← h.words, List.map_cons, List.prod_cons]
  | case2 p ps => exact h.cons hp

theorem Spells.inSequence (hps : Spells ps l) (hqs : Spells qs m) :
    Spells (inSequence ps qs) (l * m) := by
  induction ps generalizing l with
  | nil =>
    obtain rfl : 1 = l := hps.words
    rwa [one_mul]
  | cons p ps ih =>
    have hrest := (ih hps.tail).prependPart (hps.exact p List.mem_cons_self)
    rwa [← mul_assoc, ← List.prod_cons, ← List.map_cons, hps.words] at hrest

end Parts

section Branches

variable {p q : Pattern} {ps : List Pattern} {bs cs : List (List Pattern)} {l m : Language Char}

theorem Offers.nil : Offers [] 0 := ⟨by simp, rfl⟩

theorem Offers.cons (hps : Spells ps l) (hbs : Offers bs m) : Offers (ps :: bs) (l + m) where
  exact := by
    intro qs hqs
    rcases List.mem_cons.mp hqs with rfl | hqs
    · exact hps.exact
    · exact hbs.exact qs hqs
  words := by rw [List.map_cons, List.sum_cons, hps.words, hbs.words]

theorem Offers.single (hps : Spells ps l) : Offers [ps] l := by
  simpa using Offers.nil.cons hps

theorem Offers.head (h : Offers (ps :: bs) l) : Spells ps (ps.map Pattern.words).prod :=
  ⟨h.exact ps List.mem_cons_self, rfl⟩

theorem Offers.tail (h : Offers (ps :: bs) l) :
    Offers bs (bs.map fun ps => (ps.map Pattern.words).prod).sum :=
  ⟨fun qs hqs => h.exact qs (List.mem_cons_of_mem _ hqs), rfl⟩

theorem Offers.cons_words (h : Offers (ps :: bs) l) : (ps.map Pattern.words).prod +
    (bs.map fun ps => (ps.map Pattern.words).prod).sum = l := by
  rw [← h.words, List.map_cons, List.sum_cons]

theorem Offers.append (hbs : Offers bs l) (hcs : Offers cs m) : Offers (bs ++ cs) (l + m) where
  exact := by
    intro ps hps
    rcases List.mem_append.mp hps with hps | hps
    · exact hbs.exact ps hps
    · exact hcs.exact ps hps
  words := by rw [List.map_append, List.sum_append, hbs.words, hcs.words]

theorem offers_branches (hp : p.Exact) : Offers (branches p) p.words := by
  induction p with
  | alt p q _ ihq => exact (ihq hp.seq_right).cons (spells_parts hp.seq_left)
  | nothing | literal _ | one _ | anyChar | seq _ _ | group _ | loop _ _ _ =>
    exact Offers.single (spells_parts hp)

theorem Spells.flatBranches (h : Spells ps l) : Offers (flatBranches ps) l := by
  fun_cases Pattern.flatBranches ps with
  | case1 p q =>
    have hbranches := offers_branches (h.exact (alt p q) List.mem_cons_self)
    rwa [← h.words, List.map_singleton, List.prod_singleton]
  | case2 ps => exact Offers.single h

theorem Offers.flat (h : Offers bs l) : Offers (bs.flatMap Pattern.flatBranches) l := by
  induction bs generalizing l with
  | nil => exact h
  | cons ps bs ih =>
    have hflat := h.head.flatBranches.append (ih h.tail)
    rwa [h.cons_words] at hflat

theorem Offers.choice (h : Offers bs l) (hne : bs ≠ []) : (choice (bs.map ofParts)).Exact ∧
    (choice (bs.map ofParts)).words = l := by
  induction bs generalizing l with
  | nil => exact absurd rfl hne
  | cons ps bs ih =>
    have hfirst := h.head.ofParts
    cases bs with
    | nil => exact ⟨hfirst.1, by rw [← h.words]; simpa [Pattern.choice] using hfirst.2⟩
    | cons qs bs =>
      have hrest := ih h.tail (by simp)
      constructor
      · intro s hs
        rcases List.mem_append.mp hs with hs | hs
        · exact hfirst.1 s hs
        · exact hrest.1 s hs
      · rw [List.map_cons, words_choice_cons (by simp), hfirst.2, hrest.2, h.cons_words]

theorem letters_eq_codeWords {codes : CodeRanges} {s : Set Char}
    (h : ∀ c, c ∈ s ↔ codes.contains c) : letters s = codeWords codes := by
  rw [codeWords]
  congr 1
  ext c
  exact h c

theorem words_literal_singleton (c : Char) : (literal [c]).words = letters {c} := by
  ext w
  simp

/-- A branch that is one character or one set has the codes of it. -/
theorem words_of_codes {codes : CodeRanges} (hexact : ∀ p ∈ ps, p.Exact)
    (h : charOf? ps = some codes ∨ setOf? ps = some codes) :
    (ps.map Pattern.words).prod = codeWords codes := by
  rcases h with h | h
  · unfold charOf? at h
    split at h
    · rename_i c
      cases h
      rw [List.map_singleton, List.prod_singleton, words_literal_singleton]
      apply letters_eq_codeWords
      intro d
      simp only [Set.mem_singleton_iff, CodeRanges.contains_iff, CodeRanges.within_cons,
        CodeRanges.within_nil, or_false, toNat_le_iff]
      exact ge_antisymm_iff
    · cases h
  · unfold setOf? at h
    split at h
    · rename_i s
      cases h
      have hs : s.Exact := hexact (one s) List.mem_cons_self s (by simp [sets])
      rw [List.map_singleton, List.prod_singleton]
      exact letters_eq_codeWords fun c => by rw [← hs c, CharSet.contains_codes]
    · cases h

theorem codeWords_union (sets : List CodeRanges) :
    codeWords (.union sets) = (sets.map codeWords).sum := by
  induction sets with
  | nil =>
    ext w
    simp [codeWords, CodeRanges.contains_union]
  | cons r sets ih =>
    rw [List.map_cons, List.sum_cons, ← ih]
    ext w
    simp only [codeWords, mem_letters, Set.mem_ofPred_eq, CodeRanges.contains_union,
      List.exists_mem_cons_iff, Language.mem_add, or_and_right, exists_or]

theorem map_words_of_mapM {f : List Pattern → Option CodeRanges} {css : List CodeRanges}
    (hwords : ∀ ps ∈ bs, ∀ codes, f ps = some codes →
      (ps.map Pattern.words).prod = codeWords codes) (h : bs.mapM f = some css) :
    (bs.map fun ps => (ps.map Pattern.words).prod) = css.map codeWords := by
  rw [mapM_eq_some_iff] at h
  induction bs generalizing css with
  | nil =>
    obtain rfl := List.map_eq_nil_iff.mp h.symm
    rfl
  | cons ps bs ih =>
    obtain ⟨codes, css, rfl, hcodes, hcss⟩ := List.map_eq_cons_iff.mp h.symm
    rw [List.map_cons, List.map_cons, hwords ps List.mem_cons_self codes hcodes.symm,
      ih (fun qs hqs => hwords qs (List.mem_cons_of_mem _ hqs)) hcss.symm]

theorem Offers.union (h : Offers bs l) {codes : CodeRanges} (hunion : unionOf? bs = some codes) :
    codeWords codes = l := by
  simp only [unionOf?, Option.map_eq_some_iff, Option.or_eq_some_iff] at hunion
  obtain ⟨css, hcss, rfl⟩ := hunion
  rw [codeWords_union, ← h.words]
  rcases hcss with hcss | ⟨-, hcss⟩
  · rw [map_words_of_mapM _ hcss]
    exact fun ps hps codes hcodes => words_of_codes (h.exact ps hps) (.inl hcodes)
  · rw [map_words_of_mapM _ hcss]
    exact fun ps hps codes hcodes => words_of_codes (h.exact ps hps) (.inr hcodes)

theorem words_ofCodes (codes : CodeRanges) : (one (.ofCodes codes)).words = codeWords codes :=
  letters_eq_codeWords fun _ => CharSet.mem_ofCodes

theorem spells_ofCodes (codes : CodeRanges) : Spells [ofCodes codes] (codeWords codes) := by
  have hset : Spells [one (.ofCodes codes)] (codeWords codes) := by
    rw [← words_ofCodes]
    apply Spells.single
    intro s hs
    rw [List.mem_singleton.mp hs]
    exact CharSet.exact_ofCodes codes
  unfold ofCodes
  split
  · rename_i lo hi hranges
    split
    · rename_i heq
      have hwords : (literal [lo]).words = codeWords codes := by
        rw [words_literal_singleton]
        apply letters_eq_codeWords
        intro d
        rw [← CodeRanges.exists_charRanges_iff, hranges, ← heq]
        simp only [Set.mem_singleton_iff, List.mem_singleton, exists_eq_left]
        exact ge_antisymm_iff
      rw [← hwords]
      exact Spells.single (literal_exact [lo])
    · exact hset
  · exact hset

/-- Parts that all branches share, and what is left of the branches behind them. -/
theorem Offers.shared {shared : List Pattern} (h : Offers bs l)
    (hshared : ∀ ps ∈ bs, shared <+: ps) :
    Offers (bs.map (·.drop shared.length))
      (bs.map fun ps => ((ps.drop shared.length).map Pattern.words).prod).sum ∧
    (shared.map Pattern.words).prod *
      (bs.map fun ps => ((ps.drop shared.length).map Pattern.words).prod).sum = l := by
  constructor
  · constructor
    · intro qs hqs p hp
      obtain ⟨ps, hps, rfl⟩ := List.mem_map.mp hqs
      exact h.exact ps hps p (List.mem_of_mem_drop hp)
    · rw [List.map_map]
      rfl
  · rw [← h.words, ← List.sum_map_mul_left]
    congr 1
    apply List.map_congr_left
    intro ps hps
    obtain ⟨rest, rfl⟩ := hshared ps hps
    rw [List.drop_left, List.map_append, List.prod_append]

theorem Offers.factor (h : Offers bs l) (room : Nat) : Spells (factor room bs) l := by
  fun_induction Pattern.factor room bs generalizing l with
  | case1 room bs flat codes =>
    rename_i hunion
    rw [← h.flat.union hunion]
    exact spells_ofCodes codes
  | case2 bs flat | case3 bs flat room =>
    have hunion : unionOf? flat = none := by assumption
    obtain ⟨hexact, hwords⟩ := h.flat.choice (ne_nil_of_unionOf hunion)
    rw [← hwords]
    exact Spells.single hexact
  | case4 bs flat room hunion hshared =>
    rename_i ih
    obtain ⟨hrests, hwords⟩ := h.flat.shared fun ps hps => sharedParts_isPrefix hps
    rw [← hwords]
    refine Spells.inSequence ⟨?_, rfl⟩ (ih hrests)
    obtain ⟨ps, hps⟩ := List.exists_mem_of_ne_nil flat (ne_nil_of_unionOf hunion)
    exact fun p hp => h.flat.exact ps hps p ((sharedParts_isPrefix hps).subset hp)

theorem Offers.choose (h : Offers bs l) : Spells (choose bs) l := by
  fun_cases Pattern.choose bs with
  | case1 ps =>
    have hps := h.head
    rwa [← h.cons_words, List.map_nil, List.sum_nil, add_zero]
  | case2 => exact h.factor _

end Branches

theorem repetition_one (kind : RepeatKind) : repetition (1 : Language Char) kind = 1 := by
  cases kind <;> simp [repetition]

theorem words_of_takesNothing {p : Pattern} (h : p.takesNothing) : p.words = 1 := by
  induction p with
  | nothing => rfl
  | literal text =>
    rw [List.isEmpty_iff.mp h]
    rfl
  | one set => cases h
  | anyChar => cases h
  | seq p q ihp ihq =>
    obtain ⟨hp, hq⟩ := Bool.and_eq_true_iff.mp h
    rw [words, ihp hp, ihq hq, one_mul]
  | alt p q ihp ihq =>
    obtain ⟨hp, hq⟩ := Bool.and_eq_true_iff.mp h
    rw [words, ihp hp, ihq hq, add_idem]
  | group p ih => exact ih h
  | loop kind greedy p ih => rw [words, ih h, repetition_one]

theorem Spells.loop {ps : List Pattern} {l : Language Char} (h : Spells ps l) (kind : RepeatKind)
    (greedy : Bool) : Spells [loop kind greedy (Pattern.ofParts ps)] (repetition l kind) := by
  obtain ⟨hexact, hwords⟩ := h.ofParts
  rw [← hwords]
  exact Spells.single hexact

theorem Spells.repeated {ps : List Pattern} {l : Language Char} (h : Spells ps l)
    (kind : RepeatKind) (greedy : Bool) :
    Spells (repeated kind greedy ps) (repetition l kind) := by
  unfold Pattern.repeated
  split
  · rename_i hnothing
    have hone : 1 = l := by
      rw [← h.words, List.map_congr_left fun p hp =>
        words_of_takesNothing (List.all_eq_true.mp hnothing p hp)]
      simp [List.prod_replicate]
    subst hone
    rw [repetition_one]
    cases kind with
    | oneOrMore => exact h
    | optional | zeroOrMore =>
      have hround := h.loop .optional greedy
      rwa [repetition_one] at hround
  · exact h.loop kind greedy

theorem factoredBranches_offers (p : Pattern) : Offers (factoredBranches p) p.ranged.words := by
  induction p with
  | nothing => exact Offers.single Spells.nil
  | literal text =>
    rw [factoredBranches]
    split
    · rename_i hempty
      rw [List.isEmpty_iff.mp hempty]
      exact Offers.single Spells.nil
    · exact Offers.single (Spells.single (literal_exact text))
  | one set =>
    rw [ranged, words_ofCodes]
    exact Offers.single (spells_ofCodes set.codes)
  | anyChar =>
    have hall : anyChar.ranged.words = codeWords .all :=
      letters_eq_codeWords fun c => by simp [CodeRanges.contains_all]
    rw [hall]
    exact Offers.single (spells_ofCodes .all)
  | seq p q ihp ihq => exact Offers.single (ihp.choose.inSequence ihq.choose)
  | alt p q ihp ihq => exact ihq.cons ihp.choose
  | group p ih => exact Offers.single ih.choose
  | loop kind greedy p ih => exact Offers.single (ih.choose.repeated kind greedy)

/-- The factored form of a pattern has the texts of the pattern, with its sets as they are
matched. -/
theorem factored_words (p : Pattern) : p.factored.Exact ∧ p.factored.words = p.ranged.words :=
  (factoredBranches_offers p).choose.ofParts

end GrammarWorkbench.Pattern
