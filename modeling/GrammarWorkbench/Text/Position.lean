/-!
# Offsets, spans and positions

A document is addressed by byte offsets of its UTF-8 form. Users see a line and a column, both
counted from one, where the column counts characters.
-/

set_option autoImplicit false

namespace GrammarWorkbench.Text

structure Span where
  start : Nat
  stop : Nat
  deriving DecidableEq, Repr, Inhabited

namespace Span

def empty (offset : Nat) : Span := ⟨offset, offset⟩

def length (s : Span) : Nat := s.stop - s.start

end Span

structure Position where
  line : Nat
  column : Nat
  deriving DecidableEq, Repr, Inhabited

namespace Position

def first : Position := ⟨1, 1⟩

def after (p : Position) (c : Char) : Position :=
  if c = '\n' then ⟨p.line + 1, 1⟩ else ⟨p.line, p.column + 1⟩

def render (p : Position) : String := s!"{p.line}:{p.column}"

end Position

def byteLength : List Char → Nat
  | [] => 0
  | c :: cs => c.utf8Size + byteLength cs

@[simp] theorem byteLength_nil : byteLength [] = 0 := rfl

@[simp] theorem byteLength_cons (c : Char) (cs : List Char) :
    byteLength (c :: cs) = c.utf8Size + byteLength cs := rfl

@[simp] theorem byteLength_append (cs ds : List Char) :
    byteLength (cs ++ ds) = byteLength cs + byteLength ds := by
  induction cs with
  | nil => simp
  | cons c cs ih => simp [ih, Nat.add_assoc]

theorem length_le_byteLength (cs : List Char) : cs.length ≤ byteLength cs := by
  induction cs with
  | nil => exact Nat.le_refl 0
  | cons c cs ih =>
    have hpos := c.utf8Size_pos
    rw [byteLength_cons, List.length_cons]
    omega

def positionFrom (p : Position) : List Char → Nat → Position
  | [], _ => p
  | c :: cs, offset =>
    if c.utf8Size ≤ offset then positionFrom (p.after c) cs (offset - c.utf8Size) else p

/-- The position of a byte offset. An offset past the end counts as the end, and one inside a
character as the start of that character. -/
def position (text : List Char) (offset : Nat) : Position :=
  positionFrom .first text offset

def endPosition (text : List Char) : Position :=
  text.foldl Position.after .first

theorem positionFrom_append (p : Position) (cs ds : List Char) :
    positionFrom p (cs ++ ds) (byteLength cs) = cs.foldl Position.after p := by
  induction cs generalizing p with
  | nil =>
    cases ds with
    | nil => rfl
    | cons d ds => simp [positionFrom, Nat.not_le.mpr d.utf8Size_pos]
  | cons c cs ih => simp [positionFrom, ih]

/-- The position behind the first part of a text is that behind the last character of the part. -/
theorem position_append (cs ds : List Char) :
    position (cs ++ ds) (byteLength cs) = endPosition cs := positionFrom_append .first cs ds

/-- The text behind a byte offset; nothing when the offset lies past the end or inside a
character. -/
def dropBytes? : List Char → Nat → Option (List Char)
  | cs, 0 => some cs
  | [], _ + 1 => none
  | c :: cs, n + 1 => if c.utf8Size ≤ n + 1 then dropBytes? cs (n + 1 - c.utf8Size) else none

def nextBoundary? (text : List Char) (offset : Nat) : Option Nat :=
  (dropBytes? text offset).map fun
    | [] => offset
    | c :: _ => offset + c.utf8Size

def slice? (text : List Char) (start stop : Nat) : Option (List Char) := do
  let rest ← dropBytes? text start
  let behind ← dropBytes? text stop
  if start ≤ stop then return rest.take (rest.length - behind.length) else none

/-- Cuts a text at every line feed. There is always at least one line. -/
def splitLines : List Char → List (List Char)
  | [] => [[]]
  | c :: cs =>
    if c = '\n' then [] :: splitLines cs
    else
      match splitLines cs with
      | [] => [[c]]
      | line :: lines => (c :: line) :: lines

end GrammarWorkbench.Text
