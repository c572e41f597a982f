import GrammarWorkbench.Diagnostic.Message
import GrammarWorkbench.Model.Grammar
import GrammarWorkbench.Run.Token

/-!
# Lexing

The input is cut from the left. At each place the rule of the current mode with the longest match
wins, and of several with the same length the first. A rule marked `more` only starts a token that
the next match goes on with. A character that no rule matches is reported and left out.
-/

set_option autoImplicit false

namespace GrammarWorkbench.Run

open GrammarWorkbench.Text GrammarWorkbench.Diagnostic GrammarWorkbench.Model

structure LexerState where
  mode : Nat
  stack : List Nat
  pending : Option (Nat × List Char)

namespace LexerState

def initial : LexerState := ⟨0, [], none⟩

def begun (s : LexerState) (offset : Nat) : Nat × List Char := s.pending.getD (offset, [])

end LexerState

structure Lexed where
  tokens : List Token
  defects : List Defect

namespace Lexed

def append (a b : Lexed) : Lexed := ⟨a.tokens ++ b.tokens, a.defects ++ b.defects⟩

instance : Append Lexed := ⟨append⟩

end Lexed

/-- The better of a candidate and the best match so far. Only a longer match is better. -/
def betterMatch (best : Option (Nat × TokenRule)) (candidate : Nat × TokenRule) :
    Option (Nat × TokenRule) :=
  match best with
  | none => if candidate.1 = 0 then none else some candidate
  | some (n, rule) => if n < candidate.1 then some candidate else some (n, rule)

def bestMatch (rules : List TokenRule) (text : List Char) : Option (Nat × TokenRule) :=
  rules.foldl
    (fun best rule =>
      match rule.pattern.matchLength text with
      | some n => betterMatch best (n, rule)
      | none => best)
    none

section Step

variable (input : List Char)

/-- Applies a change of mode behind a match. To return with nowhere to return to is a defect. -/
def changeMode (span : Span) (matched : List Char) (s : LexerState) :
    ModeChange → LexerState × List Defect
  | .set mode => ({ s with mode := mode }, [])
  | .push mode => ({ s with mode := mode, stack := s.mode :: s.stack }, [])
  | .pop =>
    match s.stack with
    | mode :: stack => ({ s with mode := mode, stack := stack }, [])
    | [] => (s, [.inText input (.emptyModeStack (String.ofList (visible matched))) span])

def changeModes (span : Span) (matched : List Char) :
    LexerState → List ModeChange → LexerState × List Defect
  | s, [] => (s, [])
  | s, c :: cs =>
    let (s', ds) := changeMode input span matched s c
    let (s'', ds') := changeModes span matched s' cs
    (s'', ds ++ ds')

def makeToken (v : Vocabulary) (rule : TokenRule) (start : Nat) (text : List Char) : Token :=
  let type := rule.action.retype.getD rule.type
  { typeName := v.displayName type
    type := type
    text := text
    span := ⟨start, start + byteLength text⟩
    position := position input start
    channel := rule.action.channel }

def afterMatch (v : Vocabulary) (s : LexerState) (offset : Nat) (matched : List Char)
    (rule : TokenRule) : LexerState × Lexed :=
  let span : Span := ⟨offset, offset + byteLength matched⟩
  let (s', defects) := changeModes input span matched s rule.action.modeChanges
  let (start, text) := s.begun offset
  if rule.action.more then ({ s' with pending := some (start, text ++ matched) }, ⟨[], defects⟩)
  else
    let tokens :=
      if rule.action.skip then [] else [makeToken input v rule start (text ++ matched)]
    ({ s' with pending := none }, ⟨tokens, defects⟩)

def afterMismatch (s : LexerState) (offset : Nat) (c : Char) : LexerState × Lexed :=
  let (start, text) := s.begun offset
  let text := text ++ [c]
  let kind := Kind.tokenRecognition (String.ofList (visible text))
  ({ s with pending := none },
    ⟨[], [.inText input kind ⟨start, start + byteLength text⟩]⟩)

end Step

def modeRules (g : Grammar) (mode : Nat) : List TokenRule :=
  match g.modes[mode]? with
  | some m => m.rules
  | none => []

/-- Lexes the rest of an input from an offset. The first `skip` characters of the rest belong to
a match that has been dealt with. -/
def lexFrom (g : Grammar) (input : List Char) :
    (skip : Nat) → LexerState → (offset : Nat) → List Char → Lexed
  | _, _, _, [] => ⟨[], []⟩
  | skip + 1, s, offset, c :: cs => lexFrom g input skip s (offset + c.utf8Size) cs
  | 0, s, offset, c :: cs =>
    let (used, s', out) :=
      match bestMatch (modeRules g s.mode) (c :: cs) with
      | some (n, rule) =>
        (n - 1, afterMatch input g.vocabulary s offset ((c :: cs).take n) rule)
      | none => (0, afterMismatch input s offset c)
    out ++ lexFrom g input used s' (offset + c.utf8Size) cs

def tokenize (g : Grammar) (input : List Char) (isCancelled : Bool) : Except Defect Lexed :=
  if isCancelled && !input.isEmpty then .error (.unplaced .cancelled)
  else .ok (lexFrom g input 0 .initial 0 input)

end GrammarWorkbench.Run
