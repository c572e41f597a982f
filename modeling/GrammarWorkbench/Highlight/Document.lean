import GrammarWorkbench.Highlight.Line

/-!
# Highlighting a document that is edited

Every line keeps the state it was last scanned from and what the scan gave. After an edit the new
lines are scanned, and then those behind them until one starts in the state it was last scanned
from: from there on nothing can have changed.
-/

set_option autoImplicit false

namespace GrammarWorkbench.Highlight

open GrammarWorkbench.Text

structure Line where
  text : List Char
  entry : LineState
  exit : LineState
  marks : List Mark
  deriving DecidableEq, Repr

namespace Line

def fresh (text : List Char) : Line := ⟨text, .initial, .initial, []⟩

def scan (l : Line) (entry : LineState) : Line :=
  let (marks, exit) := highlightLine (withoutReturn l.text) entry
  ⟨l.text, entry, exit, marks⟩

end Line

structure Document where
  lines : List Line
  deriving DecidableEq, Repr

/-- Scans lines from a state: the first `must` of them in any case, then on until a line starts in
the state it was last scanned from. Gives the lines and how many were scanned. -/
def rescan : (must : Nat) → LineState → List Line → List Line × Nat
  | _, _, [] => ([], 0)
  | must, state, l :: ls =>
    if must = 0 ∧ l.entry = state then (l :: ls, 0)
    else
      let l' := l.scan state
      let (ls', n) := rescan (must - 1) l'.exit ls
      (l' :: ls', n + 1)

namespace Document

def freshLines (text : List Char) : List Line := (splitLines text).map Line.fresh

def ofText (text : List Char) : Document :=
  let lines := freshLines text
  ⟨(rescan lines.length .initial lines).1⟩

def text (d : Document) : List Char := List.intercalate ['\n'] (d.lines.map (·.text))

def marksFrom (offset : Nat) : List Line → List Mark
  | [] => []
  | l :: ls => l.marks.map (·.shift offset) ++ marksFrom (offset + byteLength l.text + 1) ls

def marks (d : Document) : List Mark := marksFrom 0 d.lines

def exitState (lines : List Line) : LineState :=
  match lines.getLast? with
  | some l => l.exit
  | none => .initial

/-- Replaces the lines from `start` up to and without `stop` by the lines of a text. Line numbers
past the end count as the end. Gives the document and how many lines were scanned. -/
def splice (d : Document) (start stop : Nat) (text : List Char) : Document × Nat :=
  let start := min start d.lines.length
  let stop := max start (min stop d.lines.length)
  let inserted := freshLines text
  let kept := d.lines.take start
  let (lines, n) := rescan inserted.length (exitState kept) (inserted ++ d.lines.drop stop)
  (⟨kept ++ lines⟩, n)

def replaceLine (d : Document) (index : Nat) (text : List Char) : Document × Nat :=
  d.splice index (index + 1) text

end Document

end GrammarWorkbench.Highlight
