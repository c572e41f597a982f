import GrammarWorkbench.Proofs.Recursion.Search
import Mathlib.Data.List.Chain

/-!
# The cycles that the search finds

Every cycle that the search notes is one: the rules of the current path call one another, each
stands on the path once, and the rule that is met again closes the way. A cycle is noted only for
members that none has yet, so no two have the same. Since the search also overlooks no cycle when it
finds nothing, it finds nothing exactly if there is none.
-/

set_option autoImplicit false

namespace GrammarWorkbench.Analysis

open GrammarWorkbench.Model

section Graph

variable {α : Type} {edge : α → α → Prop}

/-- A way along the edges of a graph that comes back to where it started and meets nothing else
twice. -/
structure IsCycle (edge : α → α → Prop) (cycle : List α) : Prop where
  follows : cycle.IsChain edge
  closed : ∃ a middle, cycle = a :: (middle ++ [a]) ∧ (a :: middle).Nodup

theorem transGen_of_chain {a : α} {middle : List α} (h : (a :: (middle ++ [a])).IsChain edge) :
    Relation.TransGen edge a a := by
  obtain ⟨b, rest, hrest⟩ := List.exists_cons_of_ne_nil (List.concat_ne_nil a middle)
  rw [hrest, List.isChain_cons_cons] at h
  have hlast : (b :: rest).getLast (List.cons_ne_nil b rest) = a := by simp [← hrest]
  have hback := List.relationReflTransGen_of_exists_isChain_cons rest h.2 hlast
  exact .head' h.1 hback

end Graph

def SameMembers (c d : List Nat) : Prop := ∀ n, n ∈ c ↔ n ∈ d

theorem ofList_eq_ofList {c d : List Nat} :
    TokenSet.ofList c = TokenSet.ofList d ↔ SameMembers c d := by
  constructor
  · intro h n
    rw [← TokenSet.contains_ofList, ← TokenSet.contains_ofList, h]
  · intro h
    have hle (a b : List Nat) (hab : SameMembers a b) : TokenSet.ofList a ≤ TokenSet.ofList b := by
      intro n hn
      rw [TokenSet.contains_ofList] at hn ⊢
      exact (hab n).mp hn
    have hge := hle d c fun n => (h n).symm
    exact TokenSet.eq_of_le (hle c d h) (TokenSet.subperm_of_le hge).length_le

section Visit

variable {edges : Nat → List Nat}

/-- The path from a rule that is met again, and that rule once more, are a cycle. -/
theorem isCycle_back {path : List Nat} {node : Nat} (hnodup : path.Nodup)
    (hchain : (path ++ [node]).IsChain fun n m => m ∈ edges n) (hmem : node ∈ path) :
    IsCycle (fun n m => m ∈ edges n) (path.dropWhile (· != node) ++ [node]) := by
  obtain ⟨front, middle, rfl, hfront⟩ := List.eq_append_cons_of_mem hmem
  have hdrop : (front ++ node :: middle).dropWhile (· != node) = node :: middle := by
    rw [List.dropWhile_append_of_pos]
    · simp
    · intro n hn
      rw [bne_iff_ne]
      rintro rfl
      exact hfront hn
  rw [hdrop]
  rw [List.append_assoc] at hchain
  exact ⟨hchain.right_of_append, node, middle, rfl, hnodup.of_append_right⟩

structure Search.Sound (edges : Nat → List Nat) (s : Search) : Prop where
  cycles : ∀ c ∈ s.cycles, IsCycle (fun n m => m ∈ edges n) c
  distinct : s.cycles.Pairwise fun c d => ¬ SameMembers c d

theorem Search.Sound.note {s : Search} (h : s.Sound edges) {cycle : List Nat}
    (hcycle : IsCycle (fun n m => m ∈ edges n) cycle) : (s.note cycle).Sound edges := by
  unfold Search.note
  split
  · exact h
  · rename_i hnew
    refine ⟨?_, ?_⟩
    · intro c hc
      rcases List.mem_append.mp hc with hc | hc
      · exact h.cycles c hc
      · exact List.mem_singleton.mp hc ▸ hcycle
    · refine List.pairwise_append.mpr ⟨h.distinct, by simp, ?_⟩
      intro c hc d hd hsame
      obtain rfl := List.mem_singleton.mp hd
      exact hnew (List.any_eq_true.mpr ⟨c, hc, decide_eq_true (ofList_eq_ofList.mpr hsame)⟩)

theorem visit_sound (room : Nat) : ∀ (path : List Nat) (s : Search) (node : Nat), path.Nodup →
    ((path ++ [node]).IsChain fun n m => m ∈ edges n) → s.Sound edges →
    (visit edges room path s node).Sound edges := by
  induction room with
  | zero =>
    intro path s node hnodup hchain hs
    rw [visit]
    split_ifs with hfinished hmem
    · exact hs
    · exact hs.note (isCycle_back hnodup hchain hmem)
    · exact hs
  | succ room ih =>
    intro path s node hnodup hchain hs
    rw [visit]
    split_ifs with hfinished hmem
    · exact hs
    · exact hs.note (isCycle_back hnodup hchain hmem)
    · have hlonger : (path ++ [node]).Nodup :=
        hnodup.append (List.nodup_singleton node) (by simpa using hmem)
      have hcalls : ((edges node).foldl (visit edges room (path ++ [node])) s).Sound edges := by
        refine List.foldlRecOn (edges node) _ hs fun s' hs' next hnext => ?_
        refine ih _ s' next hlonger ?_ hs'
        exact List.isChain_append.mpr ⟨hchain, by simp, by simpa using hnext⟩
      exact ⟨hcalls.cycles, hcalls.distinct⟩

end Visit

variable {α : Type} (v : Vocabulary) (rules : List (ParserRule α)) (t : Table)

/-- A rule can call another before a token is consumed, operators aside. -/
def CallsLeft (n m : Nat) : Prop :=
  ∃ r, rules[n]? = some r ∧ (blockCalls v t r.block).contains m

theorem callsLeft_eq : CallsLeft v rules t = fun n m => m ∈ leftEdges v rules t n := by
  funext n m
  rw [CallsLeft, leftEdges]
  cases rules[n]? <;> simp [TokenSet.contains_iff]

/-- The search for left recursion finds nothing exactly if no rule reaches itself by calls from the
left. What it finds are cycles of such calls, and no two of them have the same members. -/
theorem leftRecursion_cycles :
    (leftRecursion v rules t = [] ↔ ∀ n, ¬ Relation.TransGen (CallsLeft v rules t) n n) ∧
    (∀ cycle ∈ leftRecursion v rules t, IsCycle (CallsLeft v rules t) cycle) ∧
    (leftRecursion v rules t).Pairwise fun c d => ¬ SameMembers c d := by
  have hsound : Search.Sound (leftEdges v rules t)
      ((List.range rules.length).foldl (visit (leftEdges v rules t) rules.length []) ⟨[], []⟩) := by
    refine List.foldlRecOn _ _ ⟨by simp, by simp⟩ fun s hs n _ => ?_
    exact visit_sound rules.length [] s n List.nodup_nil (by simp) hs
  obtain ⟨hcycles, hdistinct⟩ := hsound
  rw [← leftRecursion_eq] at hcycles hdistinct
  rw [callsLeft_eq]
  refine ⟨⟨no_left_cycle, fun hacyclic => ?_⟩, hcycles, hdistinct⟩
  refine List.eq_nil_iff_forall_not_mem.mpr fun cycle hmem => ?_
  have hcycle := hcycles cycle hmem
  obtain ⟨n, middle, rfl, -⟩ := hcycle.closed
  exact hacyclic n (transGen_of_chain hcycle.follows)

end GrammarWorkbench.Analysis
