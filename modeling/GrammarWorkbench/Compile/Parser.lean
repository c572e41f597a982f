import GrammarWorkbench.Analysis.LeftRecursion
import GrammarWorkbench.Compile.Tokens
import GrammarWorkbench.Diagnostic.Checked

/-!
# Parser rules of a grammar

Names and literals are resolved to rule indices and token types. A rule that starts some of its
alternatives with itself is then split into operands and operators: an alternative of such a rule
is open on the left if it starts with the rule, and open on the right if it ends with it.
-/

set_option autoImplicit false

namespace GrammarWorkbench.Compile

open GrammarWorkbench.Text GrammarWorkbench.Declaration GrammarWorkbench.Diagnostic
open GrammarWorkbench.Model

/-- What a parser rule can refer to: the token types and the parser rules by index. `rule` is the
name of the rule itself. -/
structure ParserScope where
  source : List Char
  types : TokenTypes
  ruleNames : List String
  rule : String

namespace ParserScope

def defect (s : ParserScope) (kind : Kind) (span : Span) : Defect := .inText s.source kind span

def token (s : ParserScope) (ident : Ident) : Checked (Option Nat) :=
  match s.types.name? ident.name with
  | some t => pure (some t)
  | none => .missing (s.defect (.undefinedToken ident.name) ident.span)

def literal (s : ParserScope) (text : List Char) (span : Span) : Checked (Option Nat) :=
  match s.types.literal? text with
  | some t => pure (some t)
  | none => .missing (s.defect (.undefinedToken (literalName text)) span)

def misplaced {α : Type} (s : ParserScope) (construct : String) (span : Span) :
    Checked (Option α) :=
  .missing (s.defect (.lexerConstructInParser construct s.rule) span)

def reference (s : ParserScope) (ident : Ident) : Checked (Option (Element Unit)) :=
  if isTokenName ident.name then do
    return (← s.token ident).map fun t => .token (.type t)
  else
    match s.ruleNames.idxOf? ident.name with
    | some i => pure (some (.rule i))
    | none => .missing (s.defect (.undefinedRule ident.name) ident.span)

/-- The type a member of a negated set excludes; `span` is that of the whole element. -/
def excluded (s : ParserScope) (span : Span) : SetItem → Checked (Option Nat)
  | .literal text place => s.literal text place
  | .ref ident => s.token ident
  | .range _ _ => s.misplaced "character range" span
  | .set _ => s.misplaced "character set" span

end ParserScope

def loopBody : Element Unit → RuleBlock Unit
  | .block body => body
  | e => ⟨(), [⟨none, (), [e]⟩]⟩

def withSuffix (e : Element Unit) : Option Suffix → Element Unit
  | none => e
  | some suffix => .loop suffix.kind suffix.greedy () (loopBody e)

def checkCommands (s : ParserScope) : List Command → Checked Unit
  | [] => pure ()
  | c :: _ => .report (s.defect (.lexerConstructInParser "lexer command" s.rule) c.name.span)

section Resolve

variable (s : ParserScope)

mutual

def resolveAtom (span : Span) : Atom → Checked (Option (Element Unit))
  | .ref ident => s.reference ident
  | .literal text => do
    return (← s.literal text span).map fun t => .token (.type t)
  | .wildcard => pure (some (.token .any))
  | .range _ _ => s.misplaced "character range" span
  | .set _ => s.misplaced "character set" span
  | .not items => do
    let types ← Checked.eachSome (s.excluded span) items
    return some (.token (.notIn (.ofList types)))
  | .group alternatives => do
    return some (.block ⟨(), ← resolveAlternatives alternatives⟩)

def resolveElements : List ElementDecl → Checked (Sequence Unit)
  | [] => pure []
  | ⟨atom, suffix, span⟩ :: rest => do
    let e ← resolveAtom span atom
    return (e.map (withSuffix · suffix)).toList ++ (← resolveElements rest)

def resolveAlternatives : List AltDecl → Checked (List (RuleAlternative Unit))
  | [] => pure []
  | ⟨elements, label, commands, _, _⟩ :: rest => do
    checkCommands s commands
    let es ← resolveElements elements
    return ⟨label.map (·.name), (), es⟩ :: (← resolveAlternatives rest)

end

def resolvePart (alt : AltDecl) (elements : List ElementDecl) (last : List (Element Unit)) :
    Checked (RuleAlternative Unit) := do
  checkCommands s alt.commands
  let es ← resolveElements s elements
  return ⟨alt.label.map (·.name), (), es ++ last⟩

end Resolve

inductive Shape where
  | closed
  | leftOpen
  | rightOpen
  | bothOpen
  deriving DecidableEq, Repr

def isBareRef (rule : String) : ElementDecl → Bool
  | ⟨.ref ident, none, _⟩ => ident.name == rule
  | _ => false

/-- The shape of an alternative. A lone reference to the rule is open on the left only. -/
def shapeOf (rule : String) (alt : AltDecl) : Shape :=
  let starts := (alt.elements.head?.map (isBareRef rule)).getD false
  let ends := 1 < alt.elements.length && (alt.elements.getLast?.map (isBareRef rule)).getD false
  match starts, ends with
  | true, true => .bothOpen
  | true, false => .leftOpen
  | false, true => .rightOpen
  | false, false => .closed

def Shape.isLeftOpen : Shape → Bool
  | leftOpen | bothOpen => true
  | closed | rightOpen => false

inductive Part where
  | operand (alternative : RuleAlternative Unit)
  | operator (level : Nat) (alternative : RuleAlternative Unit)

/-- Splits an alternative of the rule with the given index, where `level` is its precedence. What
is open on the right ends in an operand: of a prefix or right-associative operator with the same
precedence, of another operator with a higher one. -/
def splitAlternative (s : ParserScope) (index level : Nat) (alt : AltDecl) :
    Checked (Option Part) := do
  match shapeOf s.rule alt with
  | .closed => return some (.operand (← resolvePart s alt alt.elements []))
  | .rightOpen =>
    return some (.operand (← resolvePart s alt alt.elements.dropLast [.operand index level]))
  | .leftOpen =>
    if alt.elements.length = 1 then
      .missing (s.defect (.leftRecursion (s.rule ++ " -> " ++ s.rule)) alt.span)
    else return some (.operator level (← resolvePart s alt alt.elements.tail []))
  | .bothOpen =>
    let next := if alt.rightAssoc then level else level + 1
    return some (.operator level
      (← resolvePart s alt alt.elements.tail.dropLast [.operand index next]))

/-- Splits alternatives; the first has as its precedence the number of all of them. -/
def splitAlternatives (s : ParserScope) (index : Nat) : List AltDecl → Checked (List Part)
  | [] => pure []
  | alt :: rest => do
    let part ← splitAlternative s index (rest.length + 1) alt
    return part.toList ++ (← splitAlternatives s index rest)

def operandsOf (parts : List Part) : List (RuleAlternative Unit) :=
  parts.filterMap fun
    | .operand a => some a
    | .operator _ _ => none

def operatorsOf (parts : List Part) : List (Nat × RuleAlternative Unit) :=
  parts.filterMap fun
    | .operand _ => none
    | .operator level a => some (level, a)

def parserRule (s : ParserScope) (index : Nat) (decl : RuleDecl) : Checked (ParserRule Unit) := do
  if decl.alternatives.any fun alt => (shapeOf s.rule alt).isLeftOpen then
    let parts ← splitAlternatives s index decl.alternatives
    let operands := operandsOf parts
    let operators := operatorsOf parts
    if operands.isEmpty then
      Checked.report (s.defect (.noPrimaryAlternative s.rule) decl.name.span)
    return {
      name := s.rule
      index := index
      block := ⟨(), operands⟩
      operators := some ⟨⟨(), operators.map (·.2)⟩, operators.map (·.1)⟩
      span := decl.span }
  else
    return {
      name := s.rule
      index := index
      block := ⟨(), ← resolveAlternatives s decl.alternatives⟩
      operators := none
      span := decl.span }

def numberedRules (source : List Char) (types : TokenTypes) (ruleNames : List String)
    (index : Nat) : List RuleDecl → Checked (List (ParserRule Unit))
  | [] => pure []
  | decl :: rest => do
    let r ← parserRule ⟨source, types, ruleNames, decl.name.name⟩ index decl
    return r :: (← numberedRules source types ruleNames (index + 1) rest)

def cycleDefect (source : List Char) (decls : List RuleDecl) (cycle : List Nat) : Defect :=
  let chain := cycle.map fun i => (decls[i]?.map (·.name.name)).getD ""
  let span := (cycle.head?.bind (decls[·]?)).map (·.name.span)
  .inText source (.leftRecursion (" -> ".intercalate chain)) (span.getD (.empty 0))

/-- The parser rules with their lookahead. Rules that call themselves from the left without an
end are reported. -/
def parserRules (source : List Char) (types : TokenTypes) (decls : List RuleDecl) :
    Checked (List (ParserRule Lookahead)) := do
  let rules ← numberedRules source types (decls.map (·.name.name)) 0 decls
  let table := Analysis.table types.vocabulary rules
  let cycles := Analysis.leftRecursion types.vocabulary rules table
  let _ ← Checked.each (fun c => Checked.report (cycleDefect source decls c)) cycles
  return rules.map (Analysis.annotateRule types.vocabulary table)

end GrammarWorkbench.Compile
