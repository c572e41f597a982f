import GrammarWorkbench.Highlight.Line

/-!
# Coloured text

Highlighted text for a terminal: every span is written in the style of its kind, between escape
sequences that set and reset the style.
-/

set_option autoImplicit false

namespace GrammarWorkbench.Render

open GrammarWorkbench.Text GrammarWorkbench.Highlight

inductive Color where
  | red
  | green
  | yellow
  | blue
  | magenta
  | cyan
  deriving DecidableEq, Repr

def Color.code : Color → String
  | red => "31"
  | green => "32"
  | yellow => "33"
  | blue => "34"
  | magenta => "35"
  | cyan => "36"

structure Style where
  color : Option Color
  bold : Bool
  dimmed : Bool
  italic : Bool
  deriving DecidableEq, Repr

def Style.colored (c : Color) : Style := ⟨some c, false, false, false⟩

def styleOf : MarkKind → Style
  | .keyword => ⟨some .magenta, true, false, false⟩
  | .parserRule => .colored .blue
  | .lexerRule => .colored .cyan
  | .literal => .colored .green
  | .charSet => .colored .green
  | .comment => ⟨none, false, true, true⟩
  | .action => .colored .yellow
  | .command => .colored .magenta
  | .operator => .colored .red
  | .delimiter => ⟨none, true, false, false⟩

def escapeSequence (code : String) : String := "\x1b[" ++ code ++ "m"

def reset : String := escapeSequence "0"

def Style.begin (s : Style) : String :=
  reset ++ (if s.bold then escapeSequence "1" else "") ++
    (if s.dimmed then escapeSequence "2" else "") ++
    (if s.italic then escapeSequence "3" else "") ++
    ((s.color.map fun c => escapeSequence c.code).getD "")

def splitBytes : Nat → List Char → List Char × List Char
  | _, [] => ([], [])
  | n, c :: cs =>
    if n = 0 then ([], c :: cs)
    else
      let (taken, rest) := splitBytes (n - c.utf8Size) cs
      (c :: taken, rest)

def writeMarks (before behind : MarkKind → String) : Nat → List Mark → List Char → String
  | _, [], text => String.ofList text
  | offset, m :: ms, text =>
    let (plain, rest) := splitBytes (m.start - offset) text
    let (marked, rest') := splitBytes (m.stop - m.start) rest
    String.ofList plain ++ before m.kind ++ String.ofList marked ++ behind m.kind ++
      writeMarks before behind m.stop ms rest'

def writeHighlighted (colors : Bool) (text : List Char) : String :=
  let before (c : MarkKind) := if colors then (styleOf c).begin else ""
  let behind (_ : MarkKind) := if colors then reset else ""
  let written := writeMarks before behind 0 (highlight text) text
  if text.getLast? = some '\n' then written else written ++ "\n"

end GrammarWorkbench.Render
