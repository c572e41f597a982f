import GrammarWorkbench.Pattern.Footprint

/-!
# Limits of patterns

A pattern cannot be used if it names a property that does not exist, if its written form is nested
too deep, or if its automata are too large.
-/

set_option autoImplicit false

namespace GrammarWorkbench.Pattern

/-- The extent of a written form: how many parts stand side by side in it, and how deep the
deepest of them nests. -/
structure Extent where
  parts : Nat
  depth : Nat

namespace Extent

def alone (e : Extent) : Nat := if e.parts ≤ 1 then e.depth else e.depth + 1

def choice : List Extent → Extent
  | [e] => e
  | branches => ⟨1, (branches.map alone).foldl max 0 + 2⟩

end Extent

def branchExtents : Pattern → List Extent
  | nothing => [⟨0, 0⟩]
  | literal text => [⟨text.length, 0⟩]
  | one set => [⟨1, if set.pieces.length ≤ 1 then 1 else 2⟩]
  | anyChar => [⟨1, 1⟩]
  | seq p q =>
    let e := Extent.choice (branchExtents p)
    let f := Extent.choice (branchExtents q)
    [⟨e.parts + f.parts, max e.depth f.depth⟩]
  | alt p q => Extent.choice (branchExtents p) :: branchExtents q
  | group p => [⟨1, (Extent.choice (branchExtents p)).alone + 1⟩]
  | loop _ _ p => [⟨1, (Extent.choice (branchExtents p)).alone + 2⟩]

def depth (p : Pattern) : Nat := (Extent.choice (branchExtents p)).alone

def maxDepth : Nat := 250

def maxBytes : Nat := 10 * 1048576

def fits (p : Pattern) : Bool :=
  [Direction.forward, .backward].all fun d => (Footprint.ofPattern d p).bytes ≤ maxBytes

def refusal? (p : Pattern) : Option String :=
  if !p.isKnown || p.depth > maxDepth then some "error parsing pattern 0"
  else if !p.fits then some "error building NFA"
  else none

end GrammarWorkbench.Pattern
