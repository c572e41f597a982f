import GrammarWorkbench.Proofs.Pattern.Words

/-!
# Sets that are matched as they are written

The complement of a set is made of the gaps between its ranges. A gap has the characters outside
the set, unless its bounds come out reversed: that is so of two ranges that end and begin around
the codes of no characters, and only there is more matched than is written.
-/

set_option autoImplicit false

namespace GrammarWorkbench.Text.CodeRanges

def Within (rs : List (Nat × Nat)) (n : Nat) : Prop := ∃ r ∈ rs, r.1 ≤ n ∧ n ≤ r.2

@[simp] theorem within_nil {n : Nat} : Within [] n ↔ False := by simp [Within]

@[simp] theorem within_cons {r : Nat × Nat} {rs : List (Nat × Nat)} {n : Nat} :
    Within (r :: rs) n ↔ r.1 ≤ n ∧ n ≤ r.2 ∨ Within rs n := by simp [Within]

theorem contains_iff {r : CodeRanges} {c : Char} : r.contains c ↔ Within r.ranges c.toNat := by
  simp [contains, Within]

abbrev Ascending (rs : List (Nat × Nat)) : Prop := rs.Pairwise fun r s => r.1 ≤ s.1

theorem Ascending.join {a b c d : Nat} {rs : List (Nat × Nat)}
    (h : Ascending ((a, b) :: (c, d) :: rs)) : Ascending ((a, max b d) :: rs) := by
  obtain ⟨hfirst, hrest⟩ := List.pairwise_cons.mp h
  exact List.pairwise_cons.mpr ⟨fun s hs => hfirst s (List.mem_cons_of_mem _ hs), hrest.of_cons⟩

section Join

variable {first : Nat × Nat} {rs : List (Nat × Nat)} {x : Nat × Nat}

/-- Ranges that overlap or touch are joined without a loss or a gain. -/
theorem within_joinFrom {n : Nat} (h : Ascending (first :: rs)) :
    Within (joinFrom first rs) n ↔ Within (first :: rs) n := by
  fun_induction joinFrom first rs with
  | case1 r => rfl
  | case2 a b c d rs hle ih =>
    have hac : a ≤ c := (List.pairwise_cons.mp h).1 (c, d) List.mem_cons_self
    rw [ih h.join]
    simp only [within_cons, ← or_assoc]
    exact or_congr_left (by omega)
  | case3 a b c d rs hle ih => rw [within_cons, ih h.of_cons, within_cons (r := (a, b))]

theorem bounds_of_mem_joinFrom (h : x ∈ joinFrom first rs) :
    x.1 ∈ (first :: rs).map (·.1) ∧ x.2 ∈ (first :: rs).map (·.2) := by
  fun_induction joinFrom first rs with
  | case1 r =>
    rw [List.mem_singleton.mp h]
    simp
  | case2 a b c d rs hle ih =>
    obtain ⟨hlo, hhi⟩ := ih h
    simp only [List.map_cons, List.mem_cons] at hlo hhi ⊢
    rcases max_choice b d with hmax | hmax <;> rw [hmax] at hhi <;> tauto
  | case3 a b c d rs hle ih =>
    rcases List.mem_cons.mp h with rfl | hx
    · simp
    · obtain ⟨hlo, hhi⟩ := ih hx
      exact ⟨List.mem_cons_of_mem _ hlo, List.mem_cons_of_mem _ hhi⟩

theorem le_of_mem_joinFrom (h : ∀ r ∈ first :: rs, r.1 ≤ r.2) (hx : x ∈ joinFrom first rs) :
    x.1 ≤ x.2 := by
  fun_induction joinFrom first rs with
  | case1 r =>
    rw [List.mem_singleton.mp hx]
    exact h r (List.mem_singleton_self r)
  | case2 a b c d rs hle ih =>
    apply ih _ hx
    intro r hr
    rcases List.mem_cons.mp hr with rfl | hr
    · have hab : a ≤ b := h (a, b) List.mem_cons_self
      simp only
      omega
    · exact h r (by simp [hr])
  | case3 a b c d rs hle ih =>
    rcases List.mem_cons.mp hx with rfl | hx
    · exact h _ List.mem_cons_self
    · exact ih (fun r hr => h r (List.mem_cons_of_mem _ hr)) hx

theorem joinFrom_apart (h : Ascending (first :: rs)) :
    (joinFrom first rs).Pairwise fun x y => x.2 + 1 < y.1 := by
  fun_induction joinFrom first rs with
  | case1 r => simp
  | case2 a b c d rs hle ih => exact ih h.join
  | case3 a b c d rs hle ih =>
    refine List.pairwise_cons.mpr ⟨?_, ih h.of_cons⟩
    intro y hy
    obtain ⟨z, hz, hlo⟩ := List.mem_map.mp (bounds_of_mem_joinFrom hy).1
    have hcz : c ≤ z.1 := by
      rcases List.mem_cons.mp hz with rfl | hz
      · exact Nat.le_refl _
      · exact (List.pairwise_cons.mp h.of_cons).1 z hz
    simp only at *
    omega

end Join

/-- Ranges in order are none, or are joined from the same ranges in ascending order. -/
theorem inOrder_eq (r : CodeRanges) : r.ranges = [] ∧ r.inOrder.ranges = [] ∨
    ∃ first rest, (first :: rest).Perm r.ranges ∧ Ascending (first :: rest) ∧
      r.inOrder.ranges = joinFrom first rest := by
  have hperm := List.mergeSort_perm r.ranges fun a b => a.1 ≤ b.1
  have hsorted : (r.ranges.mergeSort fun a b => a.1 ≤ b.1).Pairwise
      fun a b => decide (a.1 ≤ b.1) = true := by
    apply List.pairwise_mergeSort
    · intro a b c hab hbc
      rw [decide_eq_true_eq] at *
      exact Nat.le_trans hab hbc
    · intro a b
      simpa using Nat.le_total a.1 b.1
  rw [inOrder]
  split
  · rename_i hnil
    rw [hnil] at hperm
    exact Or.inl ⟨hperm.symm.eq_nil, rfl⟩
  · rename_i first rest hcons
    rw [hcons] at hperm hsorted
    exact Or.inr ⟨first, rest, hperm, hsorted.imp of_decide_eq_true, rfl⟩

theorem within_inOrder {r : CodeRanges} {n : Nat} :
    Within r.inOrder.ranges n ↔ Within r.ranges n := by
  obtain ⟨hnil, horder⟩ | ⟨first, rest, hperm, hascending, horder⟩ := inOrder_eq r
  · rw [hnil, horder]
  · rw [horder, within_joinFrom hascending]
    simp only [Within, hperm.mem_iff]

def IsCode (n : Nat) : Prop := n < 0xD800 ∨ 0xDFFF < n ∧ n ≤ lastCode

instance : DecidablePred IsCode := fun n =>
  inferInstanceAs (Decidable (n < 0xD800 ∨ 0xDFFF < n ∧ n ≤ lastCode))

theorem isCode_toNat (c : Char) : IsCode c.toNat := by
  have hvalid : c.toNat < 0xD800 ∨ 0xDFFF < c.toNat ∧ c.toNat < 0x110000 := c.valid
  unfold IsCode lastCode
  omega

/-- Ranges of characters, no two of which end and begin around the surrogates. -/
structure Regular (r : CodeRanges) : Prop where
  bounds : ∀ x ∈ r.ranges, x.1 ≤ x.2 ∧ IsCode x.1 ∧ IsCode x.2
  apart : ∀ x ∈ r.ranges, ∀ y ∈ r.ranges, x.2 = 0xD7FF → y.1 ≠ 0xE000

instance : DecidablePred Regular := fun r =>
  decidable_of_iff ((∀ x ∈ r.ranges, x.1 ≤ x.2 ∧ IsCode x.1 ∧ IsCode x.2) ∧
      ∀ x ∈ r.ranges, ∀ y ∈ r.ranges, x.2 = 0xD7FF → y.1 ≠ 0xE000)
    ⟨fun h => ⟨h.1, h.2⟩, fun h => ⟨h.1, h.2⟩⟩

section Regular

variable {r : CodeRanges} (h : r.Regular)

include h

theorem Regular.ascending : ∀ x ∈ r.inOrder.ranges, x.1 ≤ x.2 := by
  intro x hx
  obtain ⟨-, horder⟩ | ⟨first, rest, hperm, -, horder⟩ := inOrder_eq r
  · rw [horder] at hx
    cases hx
  · rw [horder] at hx
    exact le_of_mem_joinFrom (fun r hr => (h.bounds r (hperm.mem_iff.mp hr)).1) hx

theorem Regular.gaps : r.inOrder.ranges.Pairwise fun x y => next x.2 ≤ previous y.1 := by
  obtain ⟨-, horder⟩ | ⟨first, rest, hperm, hascending, horder⟩ := inOrder_eq r
  · rw [horder]
    exact .nil
  · rw [horder]
    refine (joinFrom_apart hascending).imp_of_mem ?_
    intro x y hx hy hlt
    obtain ⟨x', hx', hhi⟩ := List.mem_map.mp (bounds_of_mem_joinFrom hx).2
    obtain ⟨y', hy', hlo⟩ := List.mem_map.mp (bounds_of_mem_joinFrom hy).1
    rw [hperm.mem_iff] at hx' hy'
    have hhi' := (h.bounds x' hx').2.2
    have hlo' := (h.bounds y' hy').2.1
    have hedge := h.apart x' hx' y' hy'
    rw [hhi] at hhi' hedge
    rw [hlo] at hlo' hedge
    unfold IsCode at hhi' hlo'
    unfold next previous
    split <;> split <;> omega

end Regular

theorem lt_of_next_le_previous {a b : Nat} (h : next b ≤ previous a) : b < a := by
  unfold next previous at h
  split at h <;> split at h <;> omega

/-- What lies outside ranges lies before the first of them, or behind it and outside the others. -/
theorem not_within_cons {r : Nat × Nat} {rs : List (Nat × Nat)} (hr : r.1 ≤ r.2)
    (hrest : ∀ s ∈ rs, next r.2 ≤ previous s.1) {n : Nat} :
    ¬ Within (r :: rs) n ↔ n < r.1 ∨ r.2 < n ∧ ¬ Within rs n := by
  have hoff : n < r.1 → ¬ Within rs n := by
    rintro hlt ⟨s, hs, hle, -⟩
    have := lt_of_next_le_previous (hrest s hs)
    omega
  rw [within_cons]
  constructor
  · intro h
    by_cases hlt : n < r.1
    · exact Or.inl hlt
    · exact Or.inr ⟨by omega, fun hwithin => h (Or.inr hwithin)⟩
  · rintro (hlt | ⟨hlt, hwithin⟩) (hr' | hrs)
    · omega
    · exact hoff hlt hrs
    · omega
    · exact hwithin hrs

section Codes

variable {n : Nat} (hn : IsCode n)

include hn

theorem next_le_iff (m : Nat) : next m ≤ n ↔ m < n := by
  unfold IsCode at hn
  unfold next
  split <;> omega

theorem le_previous_iff {m : Nat} (hm : 0 < m) : n ≤ previous m ↔ n < m := by
  unfold IsCode at hn
  unfold previous
  split <;> omega

theorem le_lastCode : n ≤ lastCode := by
  unfold IsCode lastCode at *
  omega

theorem within_gapsBehind (rs : List (Nat × Nat)) (b : Nat)
    (hascending : ∀ r ∈ rs, r.1 ≤ r.2) (hfirst : ∀ r ∈ rs, next b ≤ previous r.1)
    (hapart : rs.Pairwise fun x y => next x.2 ≤ previous y.1) :
    Within (gapsBehind b rs) n ↔ b < n ∧ ¬ Within rs n := by
  induction rs generalizing b with
  | nil =>
    have hlast := le_lastCode hn
    rw [gapsBehind]
    split
    · simp [next_le_iff hn, hlast]
    · simp
      omega
  | cons r rs ih =>
    obtain ⟨hrest, hapart⟩ := List.pairwise_cons.mp hapart
    have hr : r.1 ≤ r.2 := hascending r List.mem_cons_self
    have hgap : next b ≤ previous r.1 := hfirst r List.mem_cons_self
    have hbelow : b < r.1 := lt_of_next_le_previous hgap
    have hgaps := ih r.2 (fun s hs => hascending s (List.mem_cons_of_mem _ hs)) hrest hapart
    have hone : (between (next b) (previous r.1)).1 ≤ n ∧ n ≤ (between (next b) (previous r.1)).2 ↔
        b < n ∧ n < r.1 := by
      rw [between, Nat.min_eq_left hgap, Nat.max_eq_right hgap, next_le_iff hn,
        le_previous_iff hn (by omega)]
    rw [gapsBehind, within_cons, hone, hgaps, not_within_cons hr hrest]
    constructor
    · rintro (⟨hb, hlt⟩ | ⟨hlt, hwithin⟩)
      · exact ⟨hb, Or.inl hlt⟩
      · exact ⟨by omega, Or.inr ⟨hlt, hwithin⟩⟩
    · rintro ⟨hb, hlt | hbehind⟩
      · exact Or.inl ⟨hb, hlt⟩
      · exact Or.inr hbehind

theorem within_complement {r : CodeRanges} (h : r.Regular) :
    Within r.complement.ranges n ↔ ¬ Within r.ranges n := by
  have hascending := h.ascending
  have hapart := h.gaps
  rw [← within_inOrder (r := r), complement]
  cases hranges : r.inOrder.ranges with
  | nil => simp [all, le_lastCode hn]
  | cons first rs =>
    rw [hranges] at hascending hapart
    obtain ⟨hrest, hapart⟩ := List.pairwise_cons.mp hapart
    have hgaps := within_gapsBehind hn rs first.2
      (fun s hs => hascending s (List.mem_cons_of_mem _ hs)) hrest hapart
    have hbefore : Within (if 0 < first.1 then [(0, previous first.1)] else []) n ↔
        n < first.1 := by
      split
      · rename_i hpos
        simp [le_previous_iff hn hpos]
      · simp
        omega
    rw [not_within_cons (hascending first List.mem_cons_self) hrest, ← hgaps, ← hbefore]
    simp only [Within, List.mem_append, or_and_right, exists_or]

end Codes

theorem contains_complement {r : CodeRanges} (h : r.Regular) (c : Char) :
    r.complement.contains c ↔ ¬ r.contains c := by
  rw [contains_iff, contains_iff, within_complement (isCode_toNat c) h]

end GrammarWorkbench.Text.CodeRanges

namespace GrammarWorkbench.Pattern

open GrammarWorkbench.Text

theorem toNat_le_iff {c d : Char} : c.toNat ≤ d.toNat ↔ c ≤ d := by
  rw [Char.le_def, UInt32.le_iff_toNat_le]
  rfl

def Piece.Regular : Piece → Prop
  | .property name negated =>
    ∀ r ∈ Property.reference? name, r.negated ≠ negated → r.members.Regular
  | _ => True

instance : DecidablePred Piece.Regular
  | .property name negated => inferInstanceAs (Decidable
    (∀ r ∈ Property.reference? name, r.negated ≠ negated → r.members.Regular))
  | .single _ | .span _ _ => inferInstanceAs (Decidable True)

theorem Piece.contains_iff {p : Piece} (h : p.Regular) (c : Char) :
    p.contains c ↔ c ∈ p.members := by
  cases p with
  | single d =>
    simp only [Piece.contains, CodeRanges.contains_iff, Piece.codes, Piece.members,
      CodeRanges.within_cons, CodeRanges.within_nil, or_false, toNat_le_iff,
      Set.mem_singleton_iff]
    exact ⟨fun hc => Char.le_antisymm hc.2 hc.1, fun hc => by simp [hc]⟩
  | span lo hi =>
    simp [Piece.contains, CodeRanges.contains_iff, Piece.codes, Piece.members, toNat_le_iff]
  | property name negated =>
    cases hreference : Property.reference? name with
    | none =>
      simp [Piece.contains, Piece.codes, Property.find?, Piece.members, propertyMembers,
        hreference, CodeRanges.contains, CodeRanges.empty]
    | some r =>
      simp only [Piece.contains, Piece.codes, Property.find?, Piece.members, propertyMembers,
        hreference, Option.map_some, Option.getD_some, Option.some.injEq, exists_eq_left',
        Set.mem_ofPred_eq]
      by_cases hsame : r.negated = negated
      · simp [hsame]
      · rw [if_neg (by simpa using hsame), CodeRanges.contains_complement (h r hreference hsame)]
        simp [hsame]

def CharSet.Regular (s : CharSet) : Prop :=
  (∀ p ∈ s.pieces, p.Regular) ∧ (s.negated → s.ranges.Regular)

instance : DecidablePred CharSet.Regular := fun s =>
  inferInstanceAs (Decidable ((∀ p ∈ s.pieces, p.Regular) ∧ (s.negated → s.ranges.Regular)))

theorem CharSet.contains_ranges (s : CharSet) (c : Char) :
    s.ranges.contains c = s.pieces.any (·.contains c) := by
  rw [CharSet.ranges, CodeRanges.contains, List.any_flatMap]
  rfl

/-- A set is matched as it is written if its gaps are regular. -/
theorem CharSet.Regular.exact {s : CharSet} (h : s.Regular) : s.Exact := by
  intro c
  have hpiece : ∀ p ∈ s.pieces, (p.contains c ↔ c ∈ p.members) := fun p hp =>
    Piece.contains_iff (h.1 p hp) c
  have hany : s.pieces.any (·.contains c) ↔ ∃ p ∈ s.pieces, c ∈ p.members := by
    rw [List.any_eq_true]
    exact exists_congr fun p => and_congr_right (hpiece p)
  rw [CharSet.contains, CharSet.members, CharSet.codes]
  by_cases hnegated : s.negated
  · rw [if_pos hnegated, if_pos hnegated, if_pos hnegated,
      CodeRanges.contains_complement (h.2 hnegated), contains_ranges, hany]
    simp
  · rw [if_neg hnegated, if_neg hnegated]
    exact hany

example : CharSet.Regular ⟨true, [.single '<', .span 'a' 'z']⟩ := by decide

-- the last character before the surrogates and the first behind them
example : ¬ CharSet.Regular ⟨true, [.single '\uD7FF', .single '\uE000']⟩ := by decide

end GrammarWorkbench.Pattern
