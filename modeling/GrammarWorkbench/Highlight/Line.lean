import GrammarWorkbench.Text.Position
import GrammarWorkbench.Text.Property

/-!
# Highlighting one line

A line of a grammar document is cut into coloured spans from the left. Comments and actions go on
over line ends, so a line is scanned from the state in which the line before it ended. Text that
is not recognised stays uncoloured.
-/

set_option autoImplicit false

namespace GrammarWorkbench.Highlight

open GrammarWorkbench.Text

inductive MarkKind where
  | keyword
  | parserRule
  | lexerRule
  | literal
  | charSet
  | comment
  | action
  | command
  | operator
  | delimiter
  deriving DecidableEq, Repr

def MarkKind.name : MarkKind → String
  | keyword => "keyword"
  | parserRule => "parser_rule"
  | lexerRule => "lexer_rule"
  | literal => "literal"
  | charSet => "char_set"
  | comment => "comment"
  | action => "action"
  | command => "command"
  | operator => "operator"
  | delimiter => "delimiter"

structure Mark where
  start : Nat
  stop : Nat
  kind : MarkKind
  deriving DecidableEq, Repr

def Mark.shift (m : Mark) (bytes : Nat) : Mark := ⟨m.start + bytes, m.stop + bytes, m.kind⟩

/-- What goes on from one line to the next: a comment, and the number of braces of an action that
are still open. -/
structure LineState where
  inComment : Bool
  actionDepth : Nat
  deriving DecidableEq, Repr

def LineState.initial : LineState := ⟨false, 0⟩

inductive Lexeme where
  | span (kind : MarkKind)
  | openComment
  | openAction
  deriving DecidableEq, Repr

def keywords : List String := [
  "grammar", "lexer", "parser", "fragment", "options", "tokens", "channels", "import", "mode",
  "returns", "locals", "throws", "catch", "finally"]

def commands : List String := ["skip", "more", "type", "channel", "pushMode", "popMode"]

/-- How many characters a quoted text takes behind its opening sign, up to and with the closing
one. A backslash takes the next character along. Without a closing sign the text runs to the
end. -/
def quotedLength (close : Char) : List Char → Nat
  | [] => 0
  | ['\\'] => 0
  | '\\' :: c :: cs => if c = '\n' then 0 else quotedLength close cs + 2
  | c :: cs => if c = close then 1 else quotedLength close cs + 1

def wordKind (first : Char) (word : String) : MarkKind :=
  if keywords.contains word then .keyword
  else if commands.contains word then .command
  else if first.isUpper then .lexerRule
  else .parserRule

/-- The word at the start of a text, if a word can start there: with an ASCII letter or an
underscore, and not inside another word. -/
def word? (before : Option Char) : List Char → Option (Lexeme × Nat)
  | [] => none
  | c :: cs =>
    if (c.isAlpha || c == '_') && !(before.any isWordChar) then
      let word := (c :: cs).takeWhile isWordChar
      some (.span (wordKind c (String.ofList word)), word.length)
    else none

def lexeme? (before : Option Char) : List Char → Option (Lexeme × Nat)
  | '/' :: '/' :: cs =>
    some (.span .comment, (cs.takeWhile fun c => c != '\r' && c != '\n').length + 2)
  | '/' :: '*' :: _ => some (.openComment, 2)
  | '\'' :: cs => some (.span .literal, quotedLength '\'' cs + 1)
  | '[' :: cs => some (.span .charSet, quotedLength ']' cs + 1)
  | '\x7b' :: _ => some (.openAction, 1)
  | '-' :: '>' :: _ => some (.span .operator, 2)
  | '.' :: '.' :: _ => some (.span .operator, 2)
  | '+' :: '=' :: _ => some (.span .operator, 2)
  | c :: cs =>
    if "|*+?~#=.!".toList.contains c then some (.span .operator, 1)
    else if ";:(),<>@".toList.contains c then some (.span .delimiter, 1)
    else word? before (c :: cs)
  | [] => none

/-- Walks through an action: the number of characters up to and with the brace that closes it, if
it closes, and the number of braces still open. Braces in quotes do not count. -/
def scanAction (quote : Option Char) (escaped : Bool) (depth : Nat) :
    List Char → Option Nat × Nat
  | [] => (none, depth)
  | c :: cs =>
    let further (r : Option Nat × Nat) := (r.1.map (· + 1), r.2)
    match quote with
    | some q =>
      if escaped then further (scanAction quote false depth cs)
      else if c = '\\' then further (scanAction quote true depth cs)
      else if c = q then further (scanAction none false depth cs)
      else further (scanAction quote false depth cs)
    | none =>
      if c = '"' ∨ c = '\'' then further (scanAction (some c) false depth cs)
      else if c = '\x7b' then further (scanAction none false (depth + 1) cs)
      else if c = '\x7d' then
        if depth ≤ 1 then (some 1, 0) else further (scanAction none false (depth - 1) cs)
      else further (scanAction none false depth cs)

def scanComment : List Char → Option Nat
  | [] => none
  | '*' :: '/' :: _ => some 2
  | _ :: cs => (scanComment cs).map (· + 1)

def markFrom (start stop : Nat) (kind : MarkKind) : List Mark :=
  if start < stop then [⟨start, stop, kind⟩] else []

/-- Where the scanner stands in a line. The next `skip` characters belong to what has been dealt
with, `before` is the last character passed, and `opened` is where a comment or an action that
was opened on this line began. -/
structure Cursor where
  skip : Nat
  state : LineState
  opened : Option Nat
  before : Option Char
  offset : Nat

namespace Cursor

def next (k : Cursor) (c : Char) (used : Nat) : Cursor :=
  { k with skip := used, before := some c, offset := k.offset + c.utf8Size }

def start (k : Cursor) : Nat := k.opened.getD k.offset

def behind (k : Cursor) (cs : List Char) (used : Nat) : Nat :=
  k.offset + byteLength (cs.take used)

end Cursor

def scanLine : Cursor → List Char → List Mark × LineState
  | k, [] =>
    let kind : MarkKind := if k.state.inComment then .comment else .action
    let isOpen := k.state.inComment || 0 < k.state.actionDepth
    (if isOpen then markFrom k.start k.offset kind else [], k.state)
  | k, c :: cs =>
    if 0 < k.skip then scanLine (k.next c (k.skip - 1)) cs
    else if k.state.inComment then
      match scanComment (c :: cs) with
      | some used =>
        let mark : Mark := ⟨k.start, k.behind (c :: cs) used, .comment⟩
        let k' := { k with opened := none, state := { k.state with inComment := false } }
        let (marks, state) := scanLine (k'.next c (used - 1)) cs
        (mark :: marks, state)
      | none => (markFrom k.start (k.offset + byteLength (c :: cs)) .comment, k.state)
    else if 0 < k.state.actionDepth then
      match scanAction none false k.state.actionDepth (c :: cs) with
      | (some used, depth) =>
        let mark : Mark := ⟨k.start, k.behind (c :: cs) used, .action⟩
        let k' := { k with opened := none, state := { k.state with actionDepth := depth } }
        let (marks, state) := scanLine (k'.next c (used - 1)) cs
        (mark :: marks, state)
      | (none, depth) =>
        (markFrom k.start (k.offset + byteLength (c :: cs)) .action,
          { k.state with actionDepth := depth })
    else
      match lexeme? k.before (c :: cs) with
      | none => scanLine (k.next c 0) cs
      | some (.span kind, used) =>
        let (marks, state) := scanLine (k.next c (used - 1)) cs
        (⟨k.offset, k.behind (c :: cs) used, kind⟩ :: marks, state)
      | some (.openComment, used) =>
        let k' := { k with opened := some k.offset, state := { k.state with inComment := true } }
        scanLine (k'.next c (used - 1)) cs
      | some (.openAction, used) =>
        let k' := { k with opened := some k.offset, state := { k.state with actionDepth := 1 } }
        scanLine (k'.next c (used - 1)) cs

def highlightLine (line : List Char) (state : LineState) : List Mark × LineState :=
  scanLine ⟨0, state, none, none, 0⟩ line

def withoutReturn (line : List Char) : List Char :=
  if line.getLast? = some '\r' then line.dropLast else line

/-- The marks of a text from an offset and a state, line by line. The first `skip` characters
belong to a line that has been dealt with, or end it. Behind a line feed at the end of the text
there is nothing to mark. -/
def highlightFrom : (skip offset : Nat) → LineState → List Char → List Mark
  | _, _, _, [] => []
  | skip + 1, offset, state, c :: cs => highlightFrom skip (offset + c.utf8Size) state cs
  | 0, offset, state, c :: cs =>
    let line := (c :: cs).takeWhile (· != '\n')
    let (marks, state') := highlightLine (withoutReturn line) state
    marks.map (·.shift offset) ++ highlightFrom line.length (offset + c.utf8Size) state' cs

def highlight (text : List Char) : List Mark := highlightFrom 0 0 .initial text

end GrammarWorkbench.Highlight
