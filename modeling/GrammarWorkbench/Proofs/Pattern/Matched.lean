import GrammarWorkbench.Proofs.Pattern.Preferred

/-!
# Where a match can end

However a pattern is matched, by length or by preference, there is a match exactly where one of its
texts begins, and it ends where one of them ends. Patterns and their choice have the same texts. So
they have the same matches wherever the longest one is taken, and wherever texts of one length only
begin.
-/

set_option autoImplicit false

namespace GrammarWorkbench.Pattern

open GrammarWorkbench.Text GrammarWorkbench.Declaration

theorem any_matchesEmpty_congr {ps qs : List Pattern} (h : ∀ p, p ∈ ps ↔ p ∈ qs) :
    ps.any matchesEmpty = qs.any matchesEmpty := by
  rw [Bool.eq_iff_iff]
  simp only [List.any_eq_true, h]

/-- The order in which patterns are listed does not count, nor how often. -/
theorem longest_congr {ps qs : List Pattern} (h : ∀ p, p ∈ ps ↔ p ∈ qs) (text : List Char) :
    longest ps text = longest qs text := by
  induction text generalizing ps qs with
  | nil => rw [longest, longest, any_matchesEmpty_congr h]
  | cons c cs ih =>
    have hnone : ps.isEmpty = qs.isEmpty := by
      rw [Bool.eq_iff_iff]
      simp only [List.isEmpty_iff, List.eq_nil_iff_forall_not_mem, h]
    have hrests : ∀ p, p ∈ allRests c ps ↔ p ∈ allRests c qs := by
      intro p
      simp only [mem_allRests, h]
    rw [longest, longest, any_matchesEmpty_congr h, hnone, ih hrests]

theorem matchesEmpty_ranged (p : Pattern) : p.ranged.matchesEmpty = p.matchesEmpty := by
  induction p with
  | seq p q ihp ihq | alt p q ihp ihq => simp [ranged, matchesEmpty, ihp, ihq]
  | group p ih => simpa [ranged, matchesEmpty] using ih
  | loop kind greedy p ih => cases kind <;> simp [ranged, matchesEmpty, ih]
  | nothing | literal _ | one _ | anyChar => rfl

theorem isLazy_ranged (p : Pattern) : p.ranged.isLazy = p.isLazy := by
  induction p with
  | seq p q ihp ihq | alt p q ihp ihq => simp [ranged, isLazy, ihp, ihq]
  | group p ih => simpa [ranged, isLazy] using ih
  | loop kind greedy p ih => simp [ranged, isLazy, ih]
  | nothing | literal _ | one _ | anyChar => rfl

theorem map_ranged_seq (ps : List Pattern) (q : Pattern) :
    (ps.map (seq · q)).map ranged = (ps.map ranged).map (seq · q.ranged) := by
  simp only [List.map_map]
  rfl

theorem rests_ranged (c : Char) (p : Pattern) : rests c p.ranged = (rests c p).map ranged := by
  induction p with
  | nothing => rfl
  | anyChar => rfl
  | literal text =>
    cases text with
    | nil => rfl
    | cons d ds => by_cases hd : c = d <;> simp [ranged, rests, hd]
  | one set =>
    have hc := CharSet.contains_ofCodes set c
    by_cases hset : set.contains c <;> simp [ranged, rests, hc, hset]
  | seq p q ihp ihq =>
    rw [ranged, rests, rests, List.map_append, map_ranged_seq, ← ihp, matchesEmpty_ranged]
    by_cases hempty : p.matchesEmpty <;> simp [hempty, ihq]
  | alt p q ihp ihq => rw [ranged, rests, rests, List.map_append, ihp, ihq]
  | group p ih => exact ih
  | loop kind greedy p ih =>
    cases kind with
    | optional => exact ih
    | zeroOrMore | oneOrMore =>
      rw [ranged, rests, rests, map_ranged_seq, ← ih]
      rfl

theorem longest_ranged (ps : List Pattern) (text : List Char) :
    longest (ps.map ranged) text = longest ps text := by
  induction text generalizing ps with
  | nil => simp [longest, List.any_map, Function.comp_def, matchesEmpty_ranged]
  | cons c cs ih =>
    have hrests : ∀ p, p ∈ allRests c (ps.map ranged) ↔ p ∈ (allRests c ps).map ranged := by
      intro p
      simp only [mem_allRests, List.mem_map, exists_exists_and_eq_and, rests_ranged]
      constructor
      · rintro ⟨q, hq, r, hr, rfl⟩
        exact ⟨r, ⟨q, hq, hr⟩, rfl⟩
      · rintro ⟨r, ⟨q, hq, hr⟩, rfl⟩
        exact ⟨q, hq, r, hr, rfl⟩
    rw [longest, longest, longest_congr hrests, ih]
    simp [List.any_map, Function.comp_def, matchesEmpty_ranged]

section Match

variable {p : Pattern} {text : List Char}

theorem longest_isLongest_ranged (p : Pattern) (text : List Char) :
    IsLongest [p.ranged] text (longest [p] text) := by
  rw [← longest_ranged]
  exact longest_isLongest (by simpa using ranged_exact p) text

theorem take_matchLength_mem {n : Nat} (h : p.matchLength text = some n) :
    text.take n ∈ p.ranged.words := by
  rw [matchLength] at h
  split at h
  · exact take_preferred_mem h
  · have hlongest := longest_isLongest_ranged p text
    rw [h] at hlongest
    simpa [beginnings] using hlongest.1.2

theorem matchLength_eq_none_iff :
    p.matchLength text = none ↔ ∀ w ∈ p.ranged.words, ¬ w <+: text := by
  rw [matchLength]
  split
  · exact preferred_eq_none_iff
  · have hlongest := longest_isLongest_ranged p text
    constructor
    · intro hnone w hw hbegins
      rw [hnone] at hlongest
      have hmem : w ∈ beginnings [p.ranged] text := ⟨hbegins, p.ranged, by simp, hw⟩
      rw [hlongest] at hmem
      exact hmem
    · intro hnone
      rw [Option.eq_none_iff_forall_ne_some]
      intro n hsome
      rw [hsome] at hlongest
      obtain ⟨hbegins, q, hq, hw⟩ := hlongest.1
      rw [List.mem_singleton.mp hq] at hw
      exact hnone _ hw hbegins

end Match

/-- The offsets at which a match of a pattern can end that starts at an offset of a text: the ends
of the texts of the pattern that begin there, with its sets as they are matched. -/
def possibleEnds (p : Pattern) (text : List Char) (offset : Nat) : Set Nat :=
  {e | ∃ before rest, text = before ++ rest ∧ byteLength before = offset ∧
    e ∈ ends p.ranged.words before rest}

section Ends

variable {p : Pattern} {text : List Char} {offset e : Nat}

theorem matchEnd?_mem_possibleEnds (h : p.matchEnd? text offset = some e) :
    e ∈ p.possibleEnds text offset := by
  simp only [matchEnd?, Option.bind_eq_bind, Option.bind_eq_some_iff, Option.pure_def,
    Option.some.injEq] at h
  obtain ⟨rest, hdrop, n, hn, rfl⟩ := h
  obtain ⟨before, rfl, rfl⟩ := dropBytes?_eq_some.mp hdrop
  exact ⟨before, rest, rfl, rfl, rest.take n, take_matchLength_mem hn, List.take_prefix n rest,
    by simp⟩

theorem matchEnd?_eq_none_iff_possibleEnds :
    p.matchEnd? text offset = none ↔ p.possibleEnds text offset = ∅ := by
  constructor
  · intro hnone
    apply Set.eq_empty_of_forall_notMem
    rintro e ⟨before, rest, rfl, rfl, w, hw, hbegins, -⟩
    have hdrop : dropBytes? (before ++ rest) (byteLength before) = some rest :=
      dropBytes?_eq_some.mpr ⟨before, rfl, rfl⟩
    have hlength : p.matchLength rest = none := by
      cases hlength : p.matchLength rest with
      | none => rfl
      | some n => simp [matchEnd?, hdrop, hlength] at hnone
    exact matchLength_eq_none_iff.mp hlength w hw hbegins
  · intro hnone
    rw [Option.eq_none_iff_forall_ne_some]
    intro e he
    have hmem := matchEnd?_mem_possibleEnds he
    rw [hnone] at hmem
    exact hmem

theorem matchEnd?_ranged (h : p.isLazy = false) :
    p.ranged.matchEnd? text offset = p.matchEnd? text offset := by
  have hlongest (rest : List Char) : longest [p.ranged] rest = longest [p] rest :=
    longest_ranged [p] rest
  simp [matchEnd?, matchLength, isLazy_ranged, h, hlongest]

/-- Without lazy repetitions a match ends at the furthest end it can have. -/
theorem matchEnd?_isGreatest (hgreedy : p.isLazy = false) (h : p.matchEnd? text offset = some e) :
    IsGreatest (p.possibleEnds text offset) e := by
  refine ⟨matchEnd?_mem_possibleEnds h, ?_⟩
  rintro e' ⟨before, rest, rfl, rfl, he'⟩
  rw [← matchEnd?_ranged hgreedy] at h
  have hgreatest := isGreatest_of_matchEnd? (ranged_exact p) (by rwa [isLazy_ranged]) h
  exact hgreatest.2 he'

end Ends

section Choice

variable {ps : List Pattern} {text : List Char} {offset e : Nat}

theorem mem_words_choice (hne : ps ≠ []) {w : List Char} :
    w ∈ (choice ps).words ↔ ∃ p ∈ ps, w ∈ p.words := by
  induction ps with
  | nil => exact absurd rfl hne
  | cons p ps ih =>
    cases ps with
    | nil => simp [choice]
    | cons q ps =>
      rw [words_choice_cons (by simp), Language.mem_add, ih (by simp)]
      simp

theorem isLazy_choice (ps : List Pattern) : (choice ps).isLazy = ps.any isLazy := by
  induction ps with
  | nil => rfl
  | cons p ps ih =>
    cases ps with
    | nil => simp [choice]
    | cons q ps => exact congrArg (p.isLazy || ·) ih

theorem ranged_choice (ps : List Pattern) : (choice ps).ranged = choice (ps.map ranged) := by
  induction ps with
  | nil => rfl
  | cons p ps ih =>
    cases ps with
    | nil => rfl
    | cons q ps => exact congrArg (alt p.ranged) ih

theorem mem_possibleEnds_choice (hne : ps ≠ []) : e ∈ (choice ps).possibleEnds text offset ↔
    ∃ p ∈ ps, e ∈ p.possibleEnds text offset := by
  have hwords : ∀ w, w ∈ (choice ps).ranged.words ↔ ∃ p ∈ ps, w ∈ p.ranged.words := by
    intro w
    rw [ranged_choice, mem_words_choice (by simpa using hne)]
    simp
  constructor
  · rintro ⟨before, rest, htext, hoffset, w, hw, hend⟩
    obtain ⟨p, hp, hw⟩ := (hwords w).mp hw
    exact ⟨p, hp, before, rest, htext, hoffset, w, hw, hend⟩
  · rintro ⟨p, hp, before, rest, htext, hoffset, w, hw, hend⟩
    exact ⟨before, rest, htext, hoffset, w, (hwords w).mpr ⟨p, hp, hw⟩, hend⟩

theorem matchEnd?_choice_eq_none_iff (hne : ps ≠ []) :
    (choice ps).matchEnd? text offset = none ↔ ∀ p ∈ ps, p.matchEnd? text offset = none := by
  simp only [matchEnd?_eq_none_iff_possibleEnds, Set.eq_empty_iff_forall_notMem,
    mem_possibleEnds_choice hne]
  constructor
  · intro h p hp e he
    exact h e ⟨p, hp, he⟩
  · rintro h e ⟨p, hp, he⟩
    exact h p hp e he

theorem furthestEnd?_singleton (p : Pattern) :
    furthestEnd? [p] text offset = p.matchEnd? text offset := by
  cases hmatch : p.matchEnd? text offset <;> simp [furthestEnd?, hmatch]

/-- A choice and its branches match equally far if all of them match as far as they can. -/
theorem furthestEnd?_eq_choice (hne : ps ≠ [])
    (hfar : ∀ p ∈ choice ps :: ps, ∀ e, p.matchEnd? text offset = some e →
      e ∈ upperBounds (p.possibleEnds text offset)) :
    furthestEnd? ps text offset = (choice ps).matchEnd? text offset := by
  have hbranch : ∀ p ∈ ps, ∀ e, p.matchEnd? text offset = some e →
      e ∈ (choice ps).possibleEnds text offset := by
    intro p hp e he
    exact (mem_possibleEnds_choice hne).mpr ⟨p, hp, matchEnd?_mem_possibleEnds he⟩
  cases hchoice : (choice ps).matchEnd? text offset with
  | none =>
    rw [matchEnd?_choice_eq_none_iff hne] at hchoice
    rw [furthestEnd?, List.max?_eq_none_iff, List.filterMap_eq_nil_iff]
    exact hchoice
  | some e =>
    have hmax := hfar _ List.mem_cons_self e hchoice
    obtain ⟨p, hp, he⟩ := (mem_possibleEnds_choice hne).mp (matchEnd?_mem_possibleEnds hchoice)
    rw [furthestEnd?, List.max?_eq_some_iff]
    constructor
    · cases hmatch : p.matchEnd? text offset with
      | none =>
        rw [matchEnd?_eq_none_iff_possibleEnds.mp hmatch] at he
        cases he
      | some e' =>
        have hle := hfar p (List.mem_cons_of_mem _ hp) e' hmatch he
        obtain rfl : e = e' := Nat.le_antisymm hle (hmax (hbranch p hp e' hmatch))
        exact List.mem_filterMap.mpr ⟨p, hp, hmatch⟩
    · intro e' he'
      obtain ⟨q, hq, hmatch⟩ := List.mem_filterMap.mp he'
      exact hmax (hbranch q hq e' hmatch)

/-- Without lazy repetitions the furthest of the branches matches what their choice matches. -/
theorem furthestEnd?_of_greedy (hne : ps ≠ []) (hgreedy : (choice ps).isLazy = false) :
    furthestEnd? ps text offset = (choice ps).matchEnd? text offset := by
  apply furthestEnd?_eq_choice hne
  intro p hp e he
  have hp' : p.isLazy = false := by
    rcases List.mem_cons.mp hp with rfl | hp
    · exact hgreedy
    · rw [isLazy_choice, List.any_eq_false] at hgreedy
      exact Bool.eq_false_of_not_eq_true (hgreedy p hp)
  exact (matchEnd?_isGreatest hp' he).2

theorem furthestEnd?_of_subsingleton (hne : ps ≠ [])
    (hone : ((choice ps).possibleEnds text offset).Subsingleton) :
    furthestEnd? ps text offset = (choice ps).matchEnd? text offset := by
  apply furthestEnd?_eq_choice hne
  intro p hp e he e' he'
  have hsub : p.possibleEnds text offset ⊆ (choice ps).possibleEnds text offset := by
    rcases List.mem_cons.mp hp with rfl | hp
    · exact Set.Subset.refl _
    · exact fun e he => (mem_possibleEnds_choice hne).mpr ⟨p, hp, he⟩
  exact (hone (hsub he') (hsub (matchEnd?_mem_possibleEnds he))).le

end Choice

end GrammarWorkbench.Pattern
