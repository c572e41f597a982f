import GrammarWorkbench.Text.Position

/-!
# Tables of lines

Where many positions of one text are asked for, the offsets at which its lines start are collected
beforehand. The line of an offset is then the last one that starts at or before it, and only the
characters from there on have to be counted.
-/

set_option autoImplicit false

namespace GrammarWorkbench.Text

def lineStartsFrom : (offset : Nat) → List Char → List Nat
  | _, [] => []
  | offset, c :: cs =>
    if c = '\n' then (offset + 1) :: lineStartsFrom (offset + 1) cs
    else lineStartsFrom (offset + c.utf8Size) cs

def boundaryBelow (text : List Char) : Nat → Nat
  | 0 => 0
  | offset + 1 =>
    if (dropBytes? text (offset + 1)).isSome then offset + 1 else boundaryBelow text offset

/-- The first place from `lo` up to `hi` at which a condition fails that holds up to some place of a
table and not from there on. The part in question is halved each time. -/
def partitionPoint (holds : Nat → Bool) (table : Array Nat) (lo hi : Nat) : Nat :=
  if lo < hi then
    let middle := (lo + hi) / 2
    if table[middle]?.any holds then partitionPoint holds table (middle + 1) hi
    else partitionPoint holds table lo middle
  else lo
termination_by hi - lo

structure LineTable where
  text : List Char
  starts : Array Nat

namespace LineTable

def ofText (text : List Char) : LineTable := ⟨text, (0 :: lineStartsFrom 0 text).toArray⟩

/-- The position of a byte offset. There is none if no line starts at or before it, or if the text
of its line up to there cannot be cut out. -/
def position? (t : LineTable) (offset : Nat) : Option Position := do
  let place := boundaryBelow t.text (min offset (byteLength t.text))
  let line := partitionPoint (· ≤ place) t.starts 0 t.starts.size
  if line = 0 then none
  else
    let start ← t.starts[line - 1]?
    let inside ← slice? t.text start place
    return ⟨line, inside.length + 1⟩

end LineTable

end GrammarWorkbench.Text
