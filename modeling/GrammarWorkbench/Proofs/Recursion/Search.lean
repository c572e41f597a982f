import Mathlib.Data.List.Perm.Subperm
import Mathlib.Logic.Relation
import GrammarWorkbench.Analysis.LeftRecursion
import GrammarWorkbench.Proofs.Lookahead.Notes

/-!
# The search for cycles misses none

When the search notes no cycle, the rules it is done with stand in an order in which every rule
calls only earlier ones from the left. So no rule reaches itself by calls from the left. The bound
on the length of a path is never met, since the rules of a path are distinct.
-/

set_option autoImplicit false

namespace GrammarWorkbench.Analysis

open GrammarWorkbench.Model GrammarWorkbench.Derivation

section Order

variable {edges : Nat → List Nat}

/-- Every number leads only to later ones of a list, or to dead ends. -/
def Ordered (edges : Nat → List Nat) : List Nat → Prop
  | [] => True
  | n :: ns => (∀ m ∈ edges n, m ∈ ns ∨ edges m = []) ∧ Ordered edges ns

theorem acc_of_dead_end {n : Nat} (h : edges n = []) : Acc (fun m n => m ∈ edges n) n := by
  constructor
  intro m hm
  rw [h] at hm
  cases hm

theorem Ordered.acc {ns : List Nat} (h : Ordered edges ns) :
    ∀ n ∈ ns, Acc (fun m n => m ∈ edges n) n := by
  induction ns with
  | nil => simp
  | cons n ns ih =>
    intro k hk
    rcases List.mem_cons.mp hk with rfl | hk
    · constructor
      intro m hm
      rcases h.1 m hm with hm | hm
      · exact ih h.2 m hm
      · exact acc_of_dead_end hm
    · exact ih h.2 k hk

theorem no_cycle_of_acc {n : Nat} (h : Acc (fun m n => m ∈ edges n) n) :
    ¬ Relation.TransGen (fun n m => m ∈ edges n) n n := by
  induction h with
  | intro n _ ih =>
    intro hcycle
    obtain ⟨m, hm, hback⟩ := Relation.TransGen.head'_iff.mp hcycle
    refine ih m hm ?_
    exact Relation.TransGen.tail' hback hm

end Order

section Visit

variable {edges : Nat → List Nat} {count : Nat}

theorem note_cycles_ne_nil (s : Search) (cycle : List Nat) : (s.note cycle).cycles ≠ [] := by
  unfold Search.note
  split
  · rename_i hknown
    intro hnil
    simp [Search.knows, hnil] at hknown
  · simp

/-- What a step of the search keeps if no cycle is noted: it was so before, what is finished stays
finished, and the order is kept. -/
structure Advanced (edges : Nat → List Nat) (s s' : Search) : Prop where
  clean : s.cycles = []
  kept : ∀ n ∈ s.finished, n ∈ s'.finished
  ordered : Ordered edges s.finished → Ordered edges s'.finished

theorem Advanced.refl {s : Search} (h : s.cycles = []) : Advanced edges s s :=
  ⟨h, fun _ hn => hn, id⟩

theorem Advanced.trans {s s' s'' : Search} (h : Advanced edges s s')
    (h' : Advanced edges s' s'') : Advanced edges s s'' :=
  ⟨h.clean, fun n hn => h'.kept n (h.kept n hn), fun ho => h'.ordered (h.ordered ho)⟩

theorem foldl_advanced {f : Search → Nat → Search}
    (hf : ∀ s n, (f s n).cycles = [] → Advanced edges s (f s n) ∧
      (n ∈ (f s n).finished ∨ edges n = []))
    (ns : List Nat) (s : Search) (h : (ns.foldl f s).cycles = []) :
    Advanced edges s (ns.foldl f s) ∧ ∀ n ∈ ns, n ∈ (ns.foldl f s).finished ∨ edges n = [] := by
  induction ns generalizing s with
  | nil => exact ⟨.refl h, by simp⟩
  | cons n ns ih =>
    obtain ⟨hmore, hns⟩ := ih (f s n) h
    obtain ⟨hone, hn⟩ := hf s n hmore.clean
    refine ⟨hone.trans hmore, fun m hm => ?_⟩
    rcases List.mem_cons.mp hm with rfl | hm
    · exact hn.imp (hmore.kept m) id
    · exact hns m hm

/-- A visit that notes no cycle finishes its rule. The bound leaves room for all rules that are
not on the path yet. -/
theorem visit_advanced (hedges : ∀ n, edges n ≠ [] → n < count) (room : Nat) :
    ∀ (path : List Nat) (s : Search) (node : Nat), path.Nodup → (∀ n ∈ path, n < count) →
      path.length + room = count → (visit edges room path s node).cycles = [] →
      Advanced edges s (visit edges room path s node) ∧
        (node ∈ (visit edges room path s node).finished ∨ edges node = []) := by
  induction room with
  | zero =>
    intro path s node hnodup hpath hlen h
    rw [visit] at h ⊢
    split_ifs at h ⊢ with hfinished hmem
    · exact ⟨.refl h, Or.inl hfinished⟩
    · exact absurd h (note_cycles_ne_nil s _)
    · -- the path holds all rules, so this is none
      refine ⟨.refl h, Or.inr ?_⟩
      by_contra hne
      have hsub : path ⊆ List.range count := fun n hn => List.mem_range.mpr (hpath n hn)
      have hperm := (List.subperm_of_subset hnodup hsub).perm_of_length_le (by simp; omega)
      exact hmem (hperm.mem_iff.mpr (List.mem_range.mpr (hedges node hne)))
  | succ room ih =>
    intro path s node hnodup hpath hlen h
    rw [visit] at h ⊢
    split_ifs at h ⊢ with hfinished hmem
    · exact ⟨.refl h, Or.inl hfinished⟩
    · exact absurd h (note_cycles_ne_nil s _)
    · dsimp only at h ⊢
      have hfold : Advanced edges s ((edges node).foldl (visit edges room (path ++ [node])) s) ∧
          ∀ n ∈ edges node,
            n ∈ ((edges node).foldl (visit edges room (path ++ [node])) s).finished ∨
              edges n = [] := by
        by_cases hdead : edges node = []
        · rw [hdead] at h ⊢
          exact ⟨.refl h, by simp⟩
        · refine foldl_advanced (fun s n => ih (path ++ [node]) s n ?_ ?_ ?_) _ _ h
          · exact hnodup.append (List.nodup_singleton node) (by simpa using hmem)
          · intro n hn
            rcases List.mem_append.mp hn with hn | hn
            · exact hpath n hn
            · exact List.mem_singleton.mp hn ▸ hedges node hdead
          · simp only [List.length_append, List.length_singleton]
            omega
      obtain ⟨hadvanced, hdone⟩ := hfold
      refine ⟨⟨hadvanced.clean, ?_, ?_⟩, Or.inl List.mem_cons_self⟩
      · exact fun n hn => List.mem_cons_of_mem _ (hadvanced.kept n hn)
      · exact fun ho => ⟨hdone, hadvanced.ordered ho⟩

end Visit

section Rules

variable {α : Type} (v : Vocabulary) (rules : List (ParserRule α)) (t : Table)

def leftEdges (node : Nat) : List Nat :=
  ((rules[node]?).map fun r => (blockCalls v t r.block).toList).getD []

variable {v rules t} in
theorem mem_leftEdges {i j : Nat} {r : ParserRule α} (hr : rules[i]? = some r) :
    j ∈ leftEdges v rules t i ↔ (blockCalls v t r.block).contains j := by
  rw [leftEdges, hr, TokenSet.contains_iff]
  rfl

theorem leftEdges_lt (n : Nat) (h : leftEdges v rules t n ≠ []) : n < rules.length := by
  by_contra hn
  rw [leftEdges, List.getElem?_eq_none (by omega)] at h
  exact h rfl

theorem leftRecursion_eq : leftRecursion v rules t =
    ((List.range rules.length).foldl (visit (leftEdges v rules t) rules.length [])
      ⟨[], []⟩).cycles := by
  unfold leftRecursion
  dsimp only
  congr 3
  funext node
  rw [leftEdges]
  cases rules[node]? <;> rfl

variable {v rules t} in
theorem no_left_cycle (h : leftRecursion v rules t = []) (n : Nat) :
    ¬ Relation.TransGen (fun n m => m ∈ leftEdges v rules t n) n n := by
  rw [leftRecursion_eq] at h
  have hvisit (s : Search) (m : Nat) := visit_advanced (leftEdges_lt v rules t) rules.length [] s m
    List.nodup_nil (by simp) (by simp)
  obtain ⟨hadvanced, hdone⟩ := foldl_advanced hvisit _ _ h
  have hordered := hadvanced.ordered trivial
  by_cases hn : n < rules.length
  · rcases hdone n (List.mem_range.mpr hn) with hfinished | hdead
    · exact no_cycle_of_acc (hordered.acc n hfinished)
    · exact no_cycle_of_acc (acc_of_dead_end hdead)
  · have hdead : leftEdges v rules t n = [] := by
      by_contra hne
      exact hn (leftEdges_lt v rules t n hne)
    exact no_cycle_of_acc (acc_of_dead_end hdead)

end Rules

section Annotated

variable {α : Type} (w : Vocabulary) (s : Table) (v : Vocabulary) (t : Table)

mutual

theorem elementCalls_annotate (after : Lookahead) : ∀ e : Element α,
    elementCalls v t (annotateElement w s after e) = elementCalls v t e
  | .token _ | .rule _ | .operand _ _ => by simp [annotateElement, elementCalls]
  | .block body => by simp [annotateElement, elementCalls, blockCalls_annotate body]
  | .loop _ _ _ body => by simp [annotateElement, elementCalls, blockCalls_annotate body]

theorem sequenceCalls_annotate : ∀ es : Sequence α,
    sequenceCalls v t (annotateSequence w s es) = sequenceCalls v t es
  | [] => by simp [annotateSequence, sequenceCalls]
  | e :: es => by
    rw [annotateSequence, sequenceCalls, sequenceCalls, elementCalls_annotate _ e,
      sequenceCalls_annotate es, elementLook_annotate]

theorem choiceCalls_annotate : ∀ as : List (RuleAlternative α),
    choiceCalls v t (annotateChoice w s as) = choiceCalls v t as
  | [] => by simp [annotateChoice, choiceCalls]
  | ⟨_, _, es⟩ :: as => by
    rw [annotateChoice, choiceCalls, choiceCalls, sequenceCalls_annotate es,
      choiceCalls_annotate as]

theorem blockCalls_annotate : ∀ b : RuleBlock α,
    blockCalls v t (annotateBlock w s b) = blockCalls v t b
  | ⟨_, as⟩ => by rw [annotateBlock, blockCalls, blockCalls, choiceCalls_annotate as]

end

theorem leftEdges_annotate (rules : List (ParserRule α)) :
    leftEdges v (rules.map (annotateRule w s)) t = leftEdges v rules t := by
  funext node
  rw [leftEdges, leftEdges, List.getElem?_map, Option.map_map]
  congr 2
  funext r
  simp only [Function.comp, annotateRule, blockCalls_annotate]

/-- No rule of an accepted grammar reaches itself by calls from the left. -/
theorem accepted_acyclic {text : List Char} {g : Grammar} {d : DeclaredGrammar}
    {rules : List (ParserRule Unit)} (acc : Accepted text g d rules) (n : Nat) :
    ¬ Relation.TransGen (fun n m => m ∈ leftEdges g.vocabulary g.parserRules
      (table g.vocabulary g.parserRules) n) n n := by
  rw [accepted_table acc, acc.annotated, leftEdges_annotate]
  exact no_left_cycle acc.acyclic n

end Annotated

end GrammarWorkbench.Analysis
