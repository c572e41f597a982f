/-!
# Sets of numbers in ascending order

Token types, rule indices and the like form small sets, kept as ascending lists. Two sets with the
same members are therefore equal.
-/

set_option autoImplicit false

namespace GrammarWorkbench.Model

def insertAscending (n : Nat) : List Nat → List Nat
  | [] => [n]
  | m :: ms =>
    if n < m then n :: m :: ms
    else if n = m then m :: ms
    else m :: insertAscending n ms

theorem mem_insertAscending {x n : Nat} {ms : List Nat} :
    x ∈ insertAscending n ms ↔ x = n ∨ x ∈ ms := by
  induction ms with
  | nil => simp [insertAscending]
  | cons m ms ih =>
    simp only [insertAscending]
    split
    · simp
    · split
      · simp_all
      · simp [ih]
        constructor
        · rintro (h | h | h) <;> simp [h]
        · rintro (h | h | h) <;> simp [h]

theorem pairwise_insertAscending {n : Nat} {ms : List Nat} (h : ms.Pairwise (· < ·)) :
    (insertAscending n ms).Pairwise (· < ·) := by
  induction ms with
  | nil => simp [insertAscending]
  | cons m ms ih =>
    have hm := List.pairwise_cons.1 h
    simp only [insertAscending]
    split
    · rename_i hlt
      refine List.pairwise_cons.2 ⟨?_, h⟩
      intro x hx
      rcases List.mem_cons.1 hx with rfl | hx
      · exact hlt
      · exact Nat.lt_trans hlt (hm.1 x hx)
    · split
      · exact h
      · rename_i hge hne
        refine List.pairwise_cons.2 ⟨?_, ih hm.2⟩
        intro x hx
        rcases mem_insertAscending.1 hx with rfl | hx
        · omega
        · exact hm.1 x hx

structure TokenSet where
  toList : List Nat
  ascending : toList.Pairwise (· < ·)
  deriving DecidableEq

namespace TokenSet

def empty : TokenSet := ⟨[], .nil⟩

instance : Inhabited TokenSet := ⟨empty⟩

def insert (n : Nat) (s : TokenSet) : TokenSet :=
  ⟨insertAscending n s.toList, pairwise_insertAscending s.ascending⟩

def ofList (ns : List Nat) : TokenSet := ns.foldr insert empty

def single (n : Nat) : TokenSet := insert n empty

def union (s t : TokenSet) : TokenSet := s.toList.foldr insert t

def contains (s : TokenSet) (n : Nat) : Bool := s.toList.contains n

def filter (p : Nat → Bool) (s : TokenSet) : TokenSet :=
  ⟨s.toList.filter p, s.ascending.filter p⟩

theorem contains_iff {s : TokenSet} {n : Nat} : s.contains n ↔ n ∈ s.toList := by
  simp [contains]

@[simp] theorem contains_empty (n : Nat) : empty.contains n = false := rfl

@[simp] theorem contains_insert {s : TokenSet} {m n : Nat} :
    (insert m s).contains n ↔ n = m ∨ s.contains n := by
  simp only [contains_iff, insert, mem_insertAscending]

theorem contains_foldr_insert {s : TokenSet} {ns : List Nat} {n : Nat} :
    (ns.foldr insert s).contains n ↔ n ∈ ns ∨ s.contains n := by
  induction ns with
  | nil => simp
  | cons m ns ih => simp [ih, or_assoc]

@[simp] theorem contains_ofList {ns : List Nat} {n : Nat} : (ofList ns).contains n ↔ n ∈ ns := by
  simp [ofList, contains_foldr_insert]

@[simp] theorem contains_single {m n : Nat} : (single m).contains n ↔ n = m := by
  simp [single]

@[simp] theorem contains_union {s t : TokenSet} {n : Nat} :
    (s.union t).contains n ↔ s.contains n ∨ t.contains n := by
  rw [union, contains_foldr_insert, ← contains_iff]

@[simp] theorem contains_filter {s : TokenSet} {p : Nat → Bool} {n : Nat} :
    (s.filter p).contains n ↔ s.contains n ∧ p n := by
  simp [contains_iff, filter]

end TokenSet

end GrammarWorkbench.Model
