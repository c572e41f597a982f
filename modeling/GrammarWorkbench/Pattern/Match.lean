import GrammarWorkbench.Pattern.Preferred
import GrammarWorkbench.Text.Position

/-!
# Matching a pattern at a place of a text

A pattern without lazy repetitions matches as much as it can. A pattern with one matches by
preference alone.
-/

set_option autoImplicit false

namespace GrammarWorkbench.Pattern

open GrammarWorkbench.Text

def matchLength (p : Pattern) (text : List Char) : Option Nat :=
  if p.isLazy then preferred p text else longest [p] text

def matchEnd? (p : Pattern) (text : List Char) (offset : Nat) : Option Nat := do
  let rest ← dropBytes? text offset
  let n ← p.matchLength rest
  return offset + byteLength (rest.take n)

end GrammarWorkbench.Pattern
