import GrammarWorkbench.Diagnostic.Kind
import GrammarWorkbench.Text.Position

/-!
# Defects and messages

A `Defect` is a cause with the place where it was found. A `Message` is what callers are given:
one record for every defect, attributed to a document, with a line and a column where these are
known. The first message of a list decides where an editor moves its focus.
-/

set_option autoImplicit false

namespace GrammarWorkbench.Diagnostic

open GrammarWorkbench.Text

structure Defect where
  kind : Kind
  span : Option Span
  position : Option Position
  deriving DecidableEq, Repr, Inhabited

namespace Defect

def unplaced (kind : Kind) : Defect := ⟨kind, none, none⟩

/-- A defect at a span of a text; the position is that of the start of the span. -/
def inText (text : List Char) (kind : Kind) (span : Span) : Defect :=
  ⟨kind, some span, some (Text.position text span.start)⟩

/-- Whether a defect comes before another: by the start of its span, those without one last. -/
def le (a b : Defect) : Bool :=
  match a.span, b.span with
  | some s, some t => s.start ≤ t.start
  | some _, none => true
  | none, some _ => false
  | none, none => true

/-- The defects by the start of their spans. Those that start at one place keep their order. -/
def sort (ds : List Defect) : List Defect := ds.mergeSort le

end Defect

/-- A failure as callers see it. Line and column are -1 where they are not known. -/
structure Message where
  line : Int
  column : Int
  text : String
  origin : Origin
  code : String
  span : Option Span
  deriving DecidableEq, Repr, Inhabited

namespace Message

def unknown (text : String) : Message :=
  ⟨-1, -1, text, .unknown, "headlights::internal::unknown", none⟩

def position? (m : Message) : Option Position :=
  if m.line < 1 ∨ m.column < 1 then none else some ⟨m.line.toNat, m.column.toNat⟩

def isNavigable (m : Message) : Bool :=
  m.origin != .unknown && m.position?.isSome

def display (m : Message) : String :=
  match m.position? with
  | some p => s!"{m.origin.label} {p.render}: {m.text}"
  | none => s!"{m.origin.label}: {m.text}"

/-- A line or column as messages hold it, in 64 bits with a sign: the upper half of the numbers
that fit in 64 bits comes out negative. -/
def signed (n : Nat) : Int := Int.bmod n 18446744073709551616

/-- The message for a defect. A defect of neither document has no place, even if one was
recorded. -/
def ofDefect (d : Defect) : Message :=
  let unplaced : Message := ⟨-1, -1, d.kind.message, d.kind.origin, d.kind.code, none⟩
  match d.kind.origin, d.position with
  | .unknown, _ | _, none => unplaced
  | _, some p => { unplaced with line := signed p.line, column := signed p.column, span := d.span }

def ofAbort (payload : Option String) : Message :=
  ofDefect (.unplaced (.internal (payload.getD "interpreter panicked")))

end Message

structure Focus where
  origin : Origin
  position : Position
  deriving DecidableEq, Repr, Inhabited

def focus? : List Message → Option Focus
  | [] => none
  | m :: _ => if m.isNavigable then m.position?.map (⟨m.origin, ·⟩) else none

end GrammarWorkbench.Diagnostic
