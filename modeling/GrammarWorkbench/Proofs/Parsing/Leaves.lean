import GrammarWorkbench.Proofs.Derivation.Declared
import GrammarWorkbench.Run.Parser

/-!
# Leaves and tokens

How the leaves of trees relate to the tokens they were read from, and to the words of token types
that rules derive.
-/

set_option autoImplicit false

namespace GrammarWorkbench.Run

open GrammarWorkbench.Model GrammarWorkbench.Derivation
open scoped Computability

/-- Some leaves are the tokens in front of `rest`, and then only ends of the input if nothing is
left. -/
def Covers (endToken : Token) (ts leaves rest : List Token) : Prop :=
  ∃ used n, ts = used ++ rest ∧ leaves = used ++ List.replicate n endToken ∧ (n ≠ 0 → rest = [])

namespace Covers

variable {endToken : Token} {ts rest : List Token} {leaves : List Token}

theorem refl (endToken : Token) (ts : List Token) : Covers endToken ts [] ts :=
  ⟨[], 0, rfl, rfl, fun h => absurd rfl h⟩

theorem trans {mid more : List Token} (h : Covers endToken ts leaves mid)
    (h' : Covers endToken mid more rest) : Covers endToken ts (leaves ++ more) rest := by
  obtain ⟨used, n, rfl, rfl, hn⟩ := h
  obtain ⟨used', m, rfl, rfl, hm⟩ := h'
  by_cases h0 : n = 0
  · subst h0
    exact ⟨used ++ used', m, by simp, by simp, hm⟩
  · -- the end has been read already, so only ends can follow
    obtain ⟨rfl, rfl⟩ := List.append_eq_nil_iff.mp (hn h0)
    exact ⟨used, n + m, by simp, by simp, fun _ => rfl⟩

/-- What covers two words one after the other covers each of them. -/
theorem split {more : List Token} (h : Covers endToken ts (leaves ++ more) rest) :
    ∃ mid, Covers endToken ts leaves mid ∧ Covers endToken mid more rest := by
  obtain ⟨used, n, rfl, hleaves, hn⟩ := h
  rcases List.append_eq_append_iff.mp hleaves with ⟨used', rfl, hmore⟩ | ⟨ends, rfl, hends⟩
  · exact ⟨used' ++ rest, ⟨leaves, 0, by simp, by simp, fun h => absurd rfl h⟩,
      ⟨used', n, rfl, hmore, hn⟩⟩
  · -- the first word reaches into the ends, so nothing is left behind it
    obtain ⟨-, hfirst, hsecond⟩ := List.append_eq_replicate_iff.mp hends.symm
    refine ⟨rest, ⟨used, ends.length, rfl, by rw [← hfirst], fun hne => hn ?_⟩,
      ⟨[], more.length, rfl, by simpa using hsecond, fun hne => hn ?_⟩⟩
    · have := congrArg List.length hends
      simp only [List.length_replicate, List.length_append] at this
      omega
    · have := congrArg List.length hends
      simp only [List.length_replicate, List.length_append] at this
      omega

theorem mem_of_mem_rest (h : Covers endToken ts leaves rest) {t : Token} (ht : t ∈ rest) :
    t ∈ ts := by
  obtain ⟨used, n, rfl, -, -⟩ := h
  exact List.mem_append_right _ ht

theorem length_lt (h : Covers endToken ts leaves rest) (hne : leaves ≠ []) :
    rest.length < ts.length ∨ (ts = [] ∧ rest = []) := by
  obtain ⟨used, n, rfl, rfl, hn⟩ := h
  cases used with
  | nil =>
    have hn0 : n ≠ 0 := by
      rintro rfl
      exact hne rfl
    exact Or.inr ⟨hn hn0, hn hn0⟩
  | cons t used =>
    left
    rw [List.cons_append, List.length_cons, List.length_append]
    omega

theorem isPrefix (h : Covers endToken ts leaves rest) (hend : endToken.isEnd)
    (hts : ∀ t ∈ ts, ¬ t.isEnd) : leaves.filter (!·.isEnd) <+: ts := by
  obtain ⟨used, n, rfl, rfl, -⟩ := h
  have hused : used.filter (!·.isEnd) = used := by
    rw [List.filter_eq_self]
    intro t ht
    simpa using hts t (List.mem_append_left _ ht)
  rw [List.filter_append, hused, List.filter_replicate]
  simp [hend]

end Covers

theorem allLeafTokens_append (ss ts : List Tree) :
    Tree.allLeafTokens (ss ++ ts) = Tree.allLeafTokens ss ++ Tree.allLeafTokens ts := by
  induction ss with
  | nil => rfl
  | cons s ss ih => simp [Tree.allLeafTokens, ih]

theorem nextType_eq {p : ParserConfig} (hend : p.endToken.isEnd) (ts : List Token) :
    nextType ts = (currentToken p ts).type := by
  cases ts with
  | nil => exact (beq_iff_eq.mp hend).symm
  | cons t ts => rfl

theorem covers_current (p : ParserConfig) (ts : List Token) :
    Covers p.endToken ts [currentToken p ts] ts.tail := by
  cases ts with
  | nil => exact ⟨[], 1, rfl, rfl, fun _ => rfl⟩
  | cons t ts => exact ⟨[t], 0, rfl, rfl, fun h => absurd rfl h⟩

/-- The next token is the first leaf, or if there is none the first token behind. -/
theorem Covers.nextType_cases {endToken : Token} {ts leaves rest : List Token}
    (h : Covers endToken ts leaves rest) (hend : endToken.isEnd) :
    (leaves = [] ∧ ts = rest) ∨ ∃ l ls, leaves = l :: ls ∧ nextType ts = l.type := by
  obtain ⟨used, n, rfl, rfl, hn⟩ := h
  cases used with
  | cons t used => exact Or.inr ⟨t, _, rfl, rfl⟩
  | nil =>
    cases n with
    | zero => exact Or.inl ⟨rfl, rfl⟩
    | succ n =>
      obtain rfl := hn (by omega)
      exact Or.inr ⟨endToken, _, rfl, (beq_iff_eq.mp hend).symm⟩

def leafTypes (w : List Tree) : List Nat := (Tree.allLeafTokens w).map (·.type)

def Yields {α : Type} (rules : List (ParserRule α)) (c : Tree) : Prop :=
  ∀ i children, c = .rule i children → ∀ q, leafTypes [c] ∈ compiledWords rules i q

def leafTypesMap {α : Type} (rules : List (ParserRule α)) :
    WordMap leafWords (fun i _ => nodeWords i) typeWords (compiledWords rules) (Yields rules) where
  toFun := leafTypes
  map_nil := rfl
  map_append u v := by rw [leafTypes, allLeafTokens_append, List.map_append]; rfl
  map_terminal s w := by
    rintro ⟨t, ht, rfl⟩ -
    exact ⟨t.type, ht, rfl⟩
  map_call i q w := by
    rintro ⟨children, rfl⟩ hw
    exact hw _ List.mem_cons_self i children rfl q

end GrammarWorkbench.Run
