import GrammarWorkbench.Compile.Grammar
import GrammarWorkbench.Run.Lexer
import GrammarWorkbench.Run.Parser

/-!
# Interpreting a text by a grammar

A grammar is compiled and run over an input. A grammar without parser rules gives the tokens of
the input, every other one a tree. Problems never get lost: they are the messages of the result.
-/

set_option autoImplicit false

namespace GrammarWorkbench.Run

open GrammarWorkbench.Text GrammarWorkbench.Diagnostic GrammarWorkbench.Model

inductive Analysis where
  | tokens (tokens : List Token)
  | tree (tree : Tree)

namespace Analysis

def tokens? : Analysis → Option (List Token)
  | tokens ts => some ts
  | tree _ => none

def tree? : Analysis → Option Tree
  | tree t => some t
  | tokens _ => none

end Analysis

def defaultDepth : Nat := 1000

structure Settings where
  start : Option String
  maxDepth : Nat
  deriving DecidableEq, Repr

namespace Settings

def standard : Settings := ⟨none, defaultDepth⟩

end Settings

/-- Runs a grammar over an input. The defects of the lexer and the parser together are sorted by
their places. A cancelled run ends at the first character or the first rule. -/
def runGrammar (g : Grammar) (input : List Char) (maxDepth : Nat) (isCancelled : Bool) :
    Except Defect (Analysis × List Defect) :=
  match tokenize g input isCancelled with
  | .error d => .error d
  | .ok lexed =>
    if g.isLexerOnly then .ok (.tokens lexed.tokens, lexed.defects)
    else
      match g.startRule with
      | none => .error (.unplaced (.internal "grammar has parser rules but no start rule"))
      | some start =>
        match parse g input lexed.tokens maxDepth isCancelled start with
        | .error d => .error d
        | .ok (tree, defects) => .ok (.tree tree, Defect.sort (lexed.defects ++ defects))

/-- What an interpretation results in. The grammar is missing if it could not be compiled, and the
analysis if something kept it from being made. -/
structure Interpretation where
  grammar : Option Grammar
  analysis : Option Analysis
  messages : List Message

namespace Interpretation

def isSuccess (r : Interpretation) : Bool := r.messages.isEmpty

def ruleNames (r : Interpretation) : List String := (r.grammar.map Grammar.ruleNames).getD []

def focus? (r : Interpretation) : Option Focus := Diagnostic.focus? r.messages

end Interpretation

def interpretBy (g : Grammar) (input : List Char) (maxDepth : Nat) (isCancelled : Bool) :
    Interpretation :=
  match runGrammar g input maxDepth isCancelled with
  | .error fatal => ⟨some g, none, [.ofDefect fatal]⟩
  | .ok (analysis, defects) => ⟨some g, some analysis, defects.map .ofDefect⟩

def interpret (settings : Settings) (grammarText input : List Char) (isCancelled : Bool) :
    Interpretation :=
  match compile grammarText settings.start with
  | .error defects => ⟨none, none, defects.map .ofDefect⟩
  | .ok g => interpretBy g input settings.maxDepth isCancelled

end GrammarWorkbench.Run
