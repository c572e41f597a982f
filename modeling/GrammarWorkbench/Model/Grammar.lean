import GrammarWorkbench.Model.Block
import GrammarWorkbench.Pattern.Match

/-!
# Compiled grammars

The executable form of a grammar: the modes of its lexer, each a list of patterns with what to do
after a match, and its parser rules with their lookahead.
-/

set_option autoImplicit false

namespace GrammarWorkbench.Model

open GrammarWorkbench.Text GrammarWorkbench.Declaration

inductive ModeChange where
  | set (mode : Nat)
  | push (mode : Nat)
  | pop
  deriving DecidableEq, Repr

structure TokenAction where
  skip : Bool
  more : Bool
  retype : Option Nat
  channel : Nat
  modeChanges : List ModeChange
  deriving DecidableEq, Repr

namespace TokenAction

def plain : TokenAction := ⟨false, false, none, 0, []⟩

end TokenAction

structure TokenRule where
  name : String
  type : Nat
  pattern : Pattern
  action : TokenAction

structure LexerMode where
  name : String
  rules : List TokenRule

inductive RuleKind where
  | lexer (fragment : Bool) (mode : Nat)
  | parser (index : Nat)
  deriving DecidableEq, Repr

structure RuleInfo where
  name : String
  kind : RuleKind
  span : Span
  deriving DecidableEq, Repr

namespace RuleInfo

def isParserRule (r : RuleInfo) : Bool :=
  match r.kind with
  | .parser _ => true
  | .lexer .. => false

end RuleInfo

structure Grammar where
  name : Option String
  kind : GrammarKind
  rules : List RuleInfo
  parserRules : List (ParserRule Lookahead)
  startRule : Option Nat
  vocabulary : Vocabulary
  modes : List LexerMode
  channels : List String

namespace Grammar

def isLexerOnly (g : Grammar) : Bool := g.parserRules.isEmpty

def ruleNames (g : Grammar) : List String := g.parserRules.map (·.name)

def ruleIndex? (g : Grammar) (name : String) : Option Nat := g.ruleNames.idxOf? name

end Grammar

end GrammarWorkbench.Model
