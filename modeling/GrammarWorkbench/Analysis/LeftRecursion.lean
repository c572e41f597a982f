import GrammarWorkbench.Analysis.Lookahead

/-!
# Left recursion

A rule calls another from the left if it can do so before a token is consumed. A cycle of such
calls would never end. The search goes depth first through all rules and notes a cycle whenever it
meets a rule of the current path again; of cycles with the same members only the first is kept.
-/

set_option autoImplicit false

namespace GrammarWorkbench.Analysis

open GrammarWorkbench.Model

section Calls

variable {α : Type} (v : Vocabulary) (t : Table)

mutual

def elementCalls : Element α → TokenSet
  | .token _ => .empty
  | .rule index => .single index
  | .operand index _ => .single index
  | .block body => blockCalls body
  | .loop _ _ _ body => blockCalls body

def sequenceCalls : Sequence α → TokenSet
  | [] => .empty
  | e :: es =>
    if (elementLook v t e).nullable then (elementCalls e).union (sequenceCalls es)
    else elementCalls e

def choiceCalls : List (RuleAlternative α) → TokenSet
  | [] => .empty
  | ⟨_, _, elements⟩ :: rest => (sequenceCalls elements).union (choiceCalls rest)

def blockCalls : RuleBlock α → TokenSet
  | ⟨_, alternatives⟩ => choiceCalls alternatives

end

end Calls

structure Search where
  finished : List Nat
  cycles : List (List Nat)

namespace Search

def knows (s : Search) (cycle : List Nat) : Bool :=
  s.cycles.any fun known => TokenSet.ofList known = TokenSet.ofList cycle

def note (s : Search) (cycle : List Nat) : Search :=
  if s.knows cycle then s else { s with cycles := s.cycles ++ [cycle] }

end Search

/-- Visits a rule. `path` leads to it, and `room` bounds how many rules can still be added to the
path. -/
def visit (edges : Nat → List Nat) : Nat → List Nat → Search → Nat → Search
  | room, path, s, node =>
    if node ∈ s.finished then s
    else if node ∈ path then s.note (path.dropWhile (· != node) ++ [node])
    else
      match room with
      | 0 => s
      | room + 1 =>
        let s' := (edges node).foldl (visit edges room (path ++ [node])) s
        { s' with finished := node :: s'.finished }

def leftRecursion {α : Type} (v : Vocabulary) (rules : List (ParserRule α)) (t : Table) :
    List (List Nat) :=
  let edges (node : Nat) : List Nat :=
    match rules[node]? with
    | some r => (blockCalls v t r.block).toList
    | none => []
  ((List.range rules.length).foldl (visit edges rules.length []) ⟨[], []⟩).cycles

end GrammarWorkbench.Analysis
