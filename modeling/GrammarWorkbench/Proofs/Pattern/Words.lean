import GrammarWorkbench.Proofs.Derivation.Words
import GrammarWorkbench.Proofs.Pattern.Progress
import GrammarWorkbench.Proofs.Reading.Places
import Mathlib.Order.Bounds.Basic

/-!
# Texts of a pattern

A pattern is read as the language of the texts it describes. The reading knows nothing of how
patterns are matched: a set has the characters of its pieces, or all others if it is negated. A
pattern without lazy repetitions takes the longest text of its language, as long as the sets in it
are matched as they are written.
-/

set_option autoImplicit false

namespace GrammarWorkbench.Pattern

open GrammarWorkbench.Text GrammarWorkbench.Declaration GrammarWorkbench.Derivation
open scoped Computability

def propertyMembers (name : String) (negated : Bool) : Set Char :=
  {c | ∃ r, Property.reference? name = some r ∧ (r.members.contains c ↔ r.negated = negated)}

def Piece.members : Piece → Set Char
  | single c => {c}
  | span lo hi => {c | lo ≤ c ∧ c ≤ hi}
  | property name negated => propertyMembers name negated

def CharSet.members (s : CharSet) : Set Char :=
  if s.negated then {c | ∀ p ∈ s.pieces, c ∉ p.members} else {c | ∃ p ∈ s.pieces, c ∈ p.members}

/-- A set is matched as it is written. Sets that are no complements always are; the gaps around
the surrogates are where a complement may have more. -/
def CharSet.Exact (s : CharSet) : Prop := ∀ c, s.contains c ↔ c ∈ s.members

def sets : Pattern → List CharSet
  | one set => [set]
  | seq p q | alt p q => sets p ++ sets q
  | group p | loop _ _ p => sets p
  | _ => []

def Exact (p : Pattern) : Prop := ∀ s ∈ p.sets, s.Exact

def letters (s : Set Char) : Language Char := {w | ∃ c ∈ s, w = [c]}

def words : Pattern → Language Char
  | nothing => 1
  | literal text => {text}
  | one set => letters set.members
  | anyChar => letters Set.univ
  | seq p q => words p * words q
  | alt p q => words p + words q
  | group p => words p
  | loop kind _ p => repetition (words p) kind

@[simp] theorem words_sequence_nil : (sequence []).words = 1 := rfl

@[simp] theorem words_sequence_cons (p : Pattern) (ps : List Pattern) :
    (sequence (p :: ps)).words = p.words * (sequence ps).words := rfl

theorem words_sequence_append (ps qs : List Pattern) :
    (sequence (ps ++ qs)).words = (sequence ps).words * (sequence qs).words := by
  induction ps with
  | nil => simp
  | cons p ps ih => simp [ih, mul_assoc]

theorem words_choice_cons {ps : List Pattern} (h : ps ≠ []) (p : Pattern) :
    (choice (p :: ps)).words = p.words + (choice ps).words := by
  cases ps with
  | nil => exact absurd rfl h
  | cons q qs => rfl

section Rests

variable {c : Char} {w : List Char}

@[simp] theorem mem_words_literal {text : List Char} : w ∈ (literal text).words ↔ w = text :=
  Iff.rfl

@[simp] theorem mem_letters {s : Set Char} : w ∈ letters s ↔ ∃ c ∈ s, w = [c] := Iff.rfl

theorem matchesEmpty_iff (p : Pattern) : p.matchesEmpty ↔ [] ∈ p.words := by
  induction p with
  | nothing => simp [matchesEmpty, words]
  | literal text => cases text <;> simp [matchesEmpty]
  | one set => simp [matchesEmpty, words]
  | anyChar => simp [matchesEmpty, words]
  | seq p q ihp ihq => simp [matchesEmpty, words, nil_mem_mul, ihp, ihq]
  | alt p q ihp ihq => rw [matchesEmpty, words, Language.mem_add, Bool.or_eq_true, ihp, ihq]
  | group p ih => simpa [matchesEmpty, words] using ih
  | loop kind greedy p ih => cases kind <;> simp [matchesEmpty, words, nil_mem_repetition, ih]

/-- The rests of the first part of a sequence, each with the second part behind it. -/
theorem exists_mem_map_seq {ps : List Pattern} {q : Pattern} :
    (∃ r ∈ ps.map (seq · q), w ∈ r.words) ↔
      ∃ u v, w = u ++ v ∧ (∃ r ∈ ps, u ∈ r.words) ∧ v ∈ q.words := by
  constructor
  · rintro ⟨_, hmap, hw⟩
    obtain ⟨r, hr, rfl⟩ := List.mem_map.mp hmap
    obtain ⟨u, hu, v, hv, rfl⟩ := Language.mem_mul.mp hw
    exact ⟨u, v, rfl, ⟨r, hr, hu⟩, hv⟩
  · rintro ⟨u, v, rfl, ⟨r, hr, hu⟩, hv⟩
    exact ⟨seq r q, List.mem_map_of_mem hr, Language.append_mem_mul hu hv⟩

theorem Exact.seq_left {p q : Pattern} (h : (seq p q).Exact) : p.Exact := fun s hs =>
  h s (List.mem_append_left _ hs)

theorem Exact.seq_right {p q : Pattern} (h : (seq p q).Exact) : q.Exact := fun s hs =>
  h s (List.mem_append_right _ hs)

/-- The rests of a pattern behind a character are read as what is left of its language. -/
theorem cons_mem_words {p : Pattern} (h : p.Exact) :
    c :: w ∈ p.words ↔ ∃ q ∈ rests c p, w ∈ q.words := by
  induction p generalizing w with
  | nothing => simp [words, rests, Language.mem_one]
  | literal text =>
    cases text with
    | nil => simp [rests]
    | cons d ds => by_cases hd : c = d <;> simp [rests, hd]
  | one set =>
    have hc := h set (by simp [sets]) c
    by_cases hmem : c ∈ set.members <;> simp [rests, hc, hmem, words, Language.mem_one]
  | anyChar => simp [rests, words, Language.mem_one]
  | seq p q ihp ihq =>
    have hp : ∀ u, c :: u ∈ p.words ↔ ∃ r ∈ rests c p, u ∈ r.words := fun u => ihp h.seq_left
    rw [words, cons_mem_mul_iff, rests]
    by_cases hempty : p.matchesEmpty
    · have hnil := (matchesEmpty_iff p).mp hempty
      simp only [hempty, if_true, List.mem_append, or_and_right, exists_or, exists_mem_map_seq,
        hp, hnil, true_and, ihq h.seq_right]
    · have hnil := mt (matchesEmpty_iff p).mpr hempty
      simp only [hempty, Bool.false_eq_true, if_false, List.append_nil, exists_mem_map_seq, hp,
        hnil, false_and, or_false]
  | alt p q ihp ihq =>
    rw [words, Language.mem_add, ihp h.seq_left, ihq h.seq_right, rests]
    simp only [List.mem_append, or_and_right, exists_or]
  | group p ih => exact ih h
  | loop kind greedy p ih =>
    have hp : ∀ u, c :: u ∈ p.words ↔ ∃ r ∈ rests c p, u ∈ r.words := fun u => ih h
    cases kind with
    | optional =>
      rw [rests, ← hp, words, repetition, Language.mem_add]
      simp [Language.mem_one]
    | zeroOrMore =>
      rw [rests, exists_mem_map_seq, words, repetition, cons_mem_kstar_iff]
      simp only [hp]
    | oneOrMore =>
      have hstar : c :: w ∈ p.words * p.words∗ ↔ c :: w ∈ p.words∗ := by
        rw [cons_mem_mul_iff, cons_mem_kstar_iff]
        constructor
        · rintro (hround | ⟨-, hrounds⟩)
          · exact hround
          · exact hrounds
        · exact Or.inl
      rw [rests, exists_mem_map_seq, words, repetition, hstar, cons_mem_kstar_iff]
      simp only [hp, words, repetition]

theorem sets_rests {p q : Pattern} (h : q ∈ rests c p) : q.sets ⊆ p.sets := by
  induction p generalizing q with
  | nothing => simp [rests] at h
  | literal text =>
    cases text with
    | nil => simp [rests] at h
    | cons d ds =>
      rw [rests] at h
      split at h
      · simp [List.mem_singleton.mp h, sets]
      · cases h
  | one set =>
    rw [rests] at h
    split at h
    · simp [List.mem_singleton.mp h, sets]
    · cases h
  | anyChar => simp [List.mem_singleton.mp h, sets]
  | seq p r ihp ihr =>
    rcases List.mem_append.mp h with hleft | hright
    · obtain ⟨p', hp', rfl⟩ := List.mem_map.mp hleft
      exact List.append_subset.mpr ⟨List.subset_append_of_subset_left _ (ihp hp'),
        List.subset_append_right _ _⟩
    · split at hright
      · exact List.subset_append_of_subset_right _ (ihr hright)
      · cases hright
  | alt p r ihp ihr =>
    rcases List.mem_append.mp h with hleft | hright
    · exact List.subset_append_of_subset_left _ (ihp hleft)
    · exact List.subset_append_of_subset_right _ (ihr hright)
  | group p ih => exact ih h
  | loop kind greedy p ih =>
    cases kind with
    | optional => exact ih h
    | zeroOrMore | oneOrMore =>
      obtain ⟨p', hp', rfl⟩ := List.mem_map.mp h
      exact List.append_subset.mpr ⟨ih hp', List.Subset.refl _⟩

theorem mem_allRests {ps : List Pattern} {q : Pattern} :
    q ∈ allRests c ps ↔ ∃ p ∈ ps, q ∈ rests c p := by
  rw [allRests, List.mem_eraseDups, List.mem_flatMap]

end Rests

def beginnings (ps : List Pattern) (text : List Char) : Set (List Char) :=
  {w | w <+: text ∧ ∃ p ∈ ps, w ∈ p.words}

theorem nil_mem_beginnings {ps : List Pattern} {text : List Char} :
    [] ∈ beginnings ps text ↔ ps.any matchesEmpty := by
  simp [beginnings, matchesEmpty_iff]

theorem cons_mem_beginnings {ps : List Pattern} (h : ∀ p ∈ ps, p.Exact) {b c : Char}
    {w text : List Char} :
    b :: w ∈ beginnings ps (c :: text) ↔ b = c ∧ w ∈ beginnings (allRests c ps) text := by
  have hwords : (∃ p ∈ ps, c :: w ∈ p.words) ↔ ∃ q ∈ allRests c ps, w ∈ q.words := by
    constructor
    · rintro ⟨p, hp, hw⟩
      obtain ⟨q, hq, hw⟩ := (cons_mem_words (h p hp)).mp hw
      exact ⟨q, mem_allRests.mpr ⟨p, hp, hq⟩, hw⟩
    · rintro ⟨q, hq, hw⟩
      obtain ⟨p, hp, hq⟩ := mem_allRests.mp hq
      exact ⟨p, hp, (cons_mem_words (h p hp)).mpr ⟨q, hq, hw⟩⟩
  constructor
  · rintro ⟨hboth, hw⟩
    obtain ⟨rfl, hbegins⟩ := List.cons_prefix_cons.mp hboth
    exact ⟨rfl, hbegins, hwords.mp hw⟩
  · rintro ⟨rfl, hbegins, hw⟩
    exact ⟨List.cons_prefix_cons.mpr ⟨rfl, hbegins⟩, hwords.mpr hw⟩

def IsLongest (ps : List Pattern) (text : List Char) : Option Nat → Prop
  | some n => text.take n ∈ beginnings ps text ∧ ∀ w ∈ beginnings ps text, w.length ≤ n
  | none => beginnings ps text = ∅

theorem isLongest_of_nil {ps : List Pattern} {text : List Char}
    (h : ∀ w ∈ beginnings ps text, w = []) :
    IsLongest ps text (if ps.any matchesEmpty then some 0 else none) := by
  split
  · rename_i hempty
    constructor
    · exact nil_mem_beginnings.mpr hempty
    · intro w hw
      simp [h w hw]
  · rename_i hempty
    apply Set.eq_empty_of_forall_notMem
    intro w hw
    exact hempty (nil_mem_beginnings.mp (h w hw ▸ hw))

theorem longest_isLongest {ps : List Pattern} (h : ∀ p ∈ ps, p.Exact) (text : List Char) :
    IsLongest ps text (longest ps text) := by
  induction text generalizing ps with
  | nil =>
    rw [longest]
    exact isLongest_of_nil fun w hw => List.prefix_nil.mp hw.1
  | cons c cs ih =>
    have hrests : ∀ q ∈ allRests c ps, q.Exact := by
      intro q hq s hs
      obtain ⟨p, hp, hrest⟩ := mem_allRests.mp hq
      exact h p hp s (sets_rests hrest hs)
    have hlongest := ih hrests
    rw [longest]
    by_cases hnone : ps.isEmpty
    · rw [if_pos hnone]
      apply Set.eq_empty_of_forall_notMem
      rintro w ⟨-, p, hp, -⟩
      rw [List.isEmpty_iff.mp hnone] at hp
      cases hp
    · rw [if_neg hnone]
      split
      · rename_i n hn
        rw [hn] at hlongest
        constructor
        · exact (cons_mem_beginnings h).mpr ⟨rfl, hlongest.1⟩
        · intro w hw
          cases w with
          | nil => exact Nat.zero_le _
          | cons b w => exact Nat.succ_le_succ (hlongest.2 w ((cons_mem_beginnings h).mp hw).2)
      · rename_i hn
        rw [hn] at hlongest
        apply isLongest_of_nil
        intro w hw
        cases w with
        | nil => rfl
        | cons b w => exact absurd ((cons_mem_beginnings h).mp hw).2 (hlongest ▸ Set.notMem_empty w)

def ends (l : Language Char) (before rest : List Char) : Set Nat :=
  {e | ∃ w ∈ l, w <+: rest ∧ e = byteLength (before ++ w)}

theorem byteLength_le_of_prefix {u v : List Char} (h : u <+: v) : byteLength u ≤ byteLength v := by
  obtain ⟨w, rfl⟩ := h
  simp

section Ends

variable {p : Pattern} (hexact : p.Exact) (hgreedy : p.isLazy = false) {before rest : List Char}

include hgreedy in
theorem matchEnd?_eq : p.matchEnd? (before ++ rest) (byteLength before) =
    (longest [p] rest).map fun n => byteLength before + byteLength (rest.take n) := by
  have hdrop : dropBytes? (before ++ rest) (byteLength before) = some rest :=
    dropBytes?_eq_some.mpr ⟨before, rfl, rfl⟩
  cases hlongest : longest [p] rest <;> simp [matchEnd?, hdrop, matchLength, hgreedy, hlongest]

include hexact hgreedy

theorem isGreatest_of_matchEnd? {e : Nat}
    (h : p.matchEnd? (before ++ rest) (byteLength before) = some e) :
    IsGreatest (ends p.words before rest) e := by
  rw [matchEnd?_eq hgreedy] at h
  obtain ⟨n, hn, rfl⟩ := Option.map_eq_some_iff.mp h
  have hlongest : IsLongest [p] rest (longest [p] rest) :=
    longest_isLongest (by simpa using hexact) rest
  rw [hn] at hlongest
  obtain ⟨⟨hbegins, hword⟩, hmax⟩ := hlongest
  constructor
  · exact ⟨rest.take n, by simpa using hword, hbegins, by simp⟩
  · rintro _ ⟨w, hw, hwrest, rfl⟩
    have hlength : w.length ≤ (rest.take n).length := by
      have hle := hmax w ⟨hwrest, p, List.mem_singleton_self p, hw⟩
      have := hwrest.length_le
      rw [List.length_take]
      omega
    have hbytes := byteLength_le_of_prefix (List.prefix_of_prefix_length_le hwrest hbegins hlength)
    rw [byteLength_append]
    omega

/-- There is no match only if the text starts with no text of the language. -/
theorem ends_eq_empty_of_matchEnd?
    (h : p.matchEnd? (before ++ rest) (byteLength before) = none) :
    ends p.words before rest = ∅ := by
  rw [matchEnd?_eq hgreedy, Option.map_eq_none_iff] at h
  have hlongest : IsLongest [p] rest (longest [p] rest) :=
    longest_isLongest (by simpa using hexact) rest
  rw [h] at hlongest
  apply Set.eq_empty_of_forall_notMem
  rintro _ ⟨w, hw, hwrest, -⟩
  have hmem : w ∈ beginnings [p] rest := ⟨hwrest, p, List.mem_singleton_self p, hw⟩
  rw [hlongest] at hmem
  cases hmem

end Ends

def furthestEnd? (ps : List Pattern) (text : List Char) (offset : Nat) : Option Nat :=
  (ps.filterMap (·.matchEnd? text offset)).max?

section Together

variable {ps : List Pattern} (hexact : ∀ p ∈ ps, p.Exact) (hgreedy : ∀ p ∈ ps, p.isLazy = false)
  {l : Language Char} (hl : ∀ w, w ∈ l ↔ ∃ p ∈ ps, w ∈ p.words) {before rest : List Char}

include hexact hgreedy hl

theorem mem_ends_of_matchEnd? {p : Pattern} (hp : p ∈ ps) {e : Nat}
    (he : p.matchEnd? (before ++ rest) (byteLength before) = some e) : e ∈ ends l before rest := by
  obtain ⟨⟨w, hw, hends⟩, -⟩ := isGreatest_of_matchEnd? (hexact p hp) (hgreedy p hp) he
  exact ⟨w, (hl w).mpr ⟨p, hp, hw⟩, hends⟩

theorem matchEnd?_of_mem_ends {e : Nat} (he : e ∈ ends l before rest) :
    ∃ p ∈ ps, ∃ e', p.matchEnd? (before ++ rest) (byteLength before) = some e' ∧ e ≤ e' := by
  obtain ⟨w, hw, hends⟩ := he
  obtain ⟨p, hp, hwp⟩ := (hl w).mp hw
  have hmem : e ∈ ends p.words before rest := ⟨w, hwp, hends⟩
  cases hmatch : p.matchEnd? (before ++ rest) (byteLength before) with
  | some e' =>
    have hgreatest := isGreatest_of_matchEnd? (hexact p hp) (hgreedy p hp) hmatch
    exact ⟨p, hp, e', hmatch, hgreatest.2 hmem⟩
  | none =>
    rw [ends_eq_empty_of_matchEnd? (hexact p hp) (hgreedy p hp) hmatch] at hmem
    cases hmem

/-- The furthest match of patterns taken together ends where the longest of their texts ends. -/
theorem furthestEnd?_eq_some_iff {e : Nat} :
    furthestEnd? ps (before ++ rest) (byteLength before) = some e ↔
      IsGreatest (ends l before rest) e := by
  simp only [furthestEnd?, List.max?_eq_some_iff, List.mem_filterMap]
  constructor
  · rintro ⟨⟨p, hp, he⟩, hmax⟩
    refine ⟨mem_ends_of_matchEnd? hexact hgreedy hl hp he, ?_⟩
    intro e' he'
    obtain ⟨q, hq, e'', hmatch, hle⟩ := matchEnd?_of_mem_ends hexact hgreedy hl he'
    exact Nat.le_trans hle (hmax e'' ⟨q, hq, hmatch⟩)
  · rintro ⟨he, hmax⟩
    obtain ⟨p, hp, e', hmatch, hle⟩ := matchEnd?_of_mem_ends hexact hgreedy hl he
    have he' := hmax (mem_ends_of_matchEnd? hexact hgreedy hl hp hmatch)
    obtain rfl : e = e' := Nat.le_antisymm hle he'
    refine ⟨⟨p, hp, hmatch⟩, ?_⟩
    rintro e'' ⟨q, hq, hmatch'⟩
    exact hmax (mem_ends_of_matchEnd? hexact hgreedy hl hq hmatch')

/-- None of some patterns matches exactly where no text of theirs begins. -/
theorem matchEnd?_eq_none_iff :
    (∀ p ∈ ps, p.matchEnd? (before ++ rest) (byteLength before) = none) ↔
      ∀ w ∈ l, ¬ w <+: rest := by
  constructor
  · intro hnone w hw hbegins
    have hmem : byteLength (before ++ w) ∈ ends l before rest := ⟨w, hw, hbegins, rfl⟩
    obtain ⟨p, hp, e, hmatch, -⟩ := matchEnd?_of_mem_ends hexact hgreedy hl hmem
    rw [hnone p hp] at hmatch
    cases hmatch
  · intro hnone p hp
    cases hmatch : p.matchEnd? (before ++ rest) (byteLength before) with
    | none => rfl
    | some e =>
      obtain ⟨w, hw, hbegins, -⟩ := mem_ends_of_matchEnd? hexact hgreedy hl hp hmatch
      exact absurd hbegins (hnone w hw)

end Together

end GrammarWorkbench.Pattern
