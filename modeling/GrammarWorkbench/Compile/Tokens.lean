import GrammarWorkbench.Declaration.Basic
import GrammarWorkbench.Model.Vocabulary
import GrammarWorkbench.Text.Quoted

/-!
# Token types of a grammar

Token types are given out in order: the names declared in `tokens`, then the literals that parser
rules use and that no lexer rule consists of, then the lexer rules that make tokens. A literal
that is all a lexer rule consists of is that rule's token.
-/

set_option autoImplicit false

namespace GrammarWorkbench.Compile

open GrammarWorkbench.Text GrammarWorkbench.Declaration GrammarWorkbench.Model

def soleLiteral? (r : RuleDecl) : Option (List Char) :=
  match r.alternatives with
  | [⟨[⟨.literal text, none, _⟩], _, [], _, _⟩] => some text
  | _ => none

def setLiterals (items : List SetItem) : List (List Char) :=
  items.filterMap fun
    | .literal text _ => some text
    | _ => none

mutual

def atomLiterals : Atom → List (List Char)
  | .literal text => [text]
  | .group alternatives => alternativesLiterals alternatives
  | .not items => setLiterals items
  | .ref _ => []
  | .range _ _ => []
  | .set _ => []
  | .wildcard => []

def elementsLiterals : List ElementDecl → List (List Char)
  | [] => []
  | ⟨atom, _, _⟩ :: rest => atomLiterals atom ++ elementsLiterals rest

def alternativesLiterals : List AltDecl → List (List Char)
  | [] => []
  | ⟨elements, _, _, _, _⟩ :: rest => elementsLiterals elements ++ alternativesLiterals rest

end

def literalName (text : List Char) : String := String.ofList ('\'' :: quoted text ++ ['\''])

/-- The token types of a grammar: their names, the types of the literals that have a token of
their own, and the lexer rules that stand for a literal. -/
structure TokenTypes where
  vocabulary : Vocabulary
  implicit : List (List Char × Nat)
  aliases : List (List Char × String)

namespace TokenTypes

def literal? (t : TokenTypes) (text : List Char) : Option Nat :=
  match t.implicit.lookup text with
  | some type => some type
  | none => (t.aliases.lookup text).bind t.vocabulary.typeOf?

def name? (t : TokenTypes) (name : String) : Option Nat :=
  if name = "EOF" then some endType else t.vocabulary.typeOf? name

end TokenTypes

/-- Gives a literal a type of its own unless it has one or a lexer rule stands for it. -/
def addImplicit (aliases : List (List Char × String))
    (state : Vocabulary × List (List Char × Nat)) (text : List Char) :
    Vocabulary × List (List Char × Nat) :=
  if (state.2.lookup text).isSome || (aliases.lookup text).isSome then state
  else (state.1.add (literalName text), state.2 ++ [(text, state.1.size)])

/-- The lexer rules that stand for a literal, each with its literal. Of several rules for one
literal the first is found. -/
def literalAliases (tokenRules : List RuleDecl) : List (List Char × String) :=
  tokenRules.filterMap fun r => (soleLiteral? r).map fun text => (text, r.name.name)

def declareTokens (names : List Ident) (lexerRules parserRules : List RuleDecl) : TokenTypes :=
  let declared := names.foldl (fun v ident => v.ensure ident.name) Vocabulary.initial
  let tokenRules := lexerRules.filter (·.fragment.isNone)
  let aliases := literalAliases tokenRules
  let used := parserRules.flatMap fun r => alternativesLiterals r.alternatives
  let (withLiterals, implicit) := used.foldl (addImplicit aliases) (declared, [])
  let full := tokenRules.foldl (fun v r => v.ensure r.name.name) withLiterals
  ⟨full, implicit, aliases⟩

end GrammarWorkbench.Compile
