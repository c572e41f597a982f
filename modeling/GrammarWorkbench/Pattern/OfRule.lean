import GrammarWorkbench.Pattern.Basic
import GrammarWorkbench.Diagnostic.Checked

/-!
# The pattern of a lexer rule

References are replaced by the pattern of the rule they name. A rule that is being inlined already
is not entered again, so the chain of rules being inlined never repeats a name and its length is
at most the number of rules. Defects are reported only for what is written in the rule itself: a
faulty rule is reported once, where it is declared, and not where it is used.
-/

set_option autoImplicit false

namespace GrammarWorkbench.Pattern

open GrammarWorkbench.Text GrammarWorkbench.Declaration GrammarWorkbench.Diagnostic

structure Lexicon where
  source : List Char
  rules : List RuleDecl

namespace Lexicon

def rule? (lex : Lexicon) (name : String) : Option RuleDecl :=
  lex.rules.find? fun r => r.isLexerRule && r.name.name == name

def hasParserRule (lex : Lexicon) (name : String) : Bool :=
  lex.rules.any fun r => !r.isLexerRule && r.name.name == name

def defect (lex : Lexicon) (kind : Kind) (span : Span) : Defect := .inText lex.source kind span

end Lexicon

def pieceOf : ClassItem → Piece
  | .range lo hi => if lo = hi then .single lo else .span lo hi
  | .property name negated => .property name negated

def atomPieces? : Atom → Option (List Piece)
  | .set items => some (items.map pieceOf)
  | .range lo hi => some [.span lo hi]
  | .literal [c] => some [.single c]
  | _ => none

def rulePieces? (r : RuleDecl) : Option (List Piece) :=
  match r.alternatives with
  | [⟨[⟨atom, none, _⟩], _, _, _, _⟩] => atomPieces? atom
  | _ => none

section OfRule

variable (lex : Lexicon)

def reportOwn (own : Bool) (kind : Kind) (span : Span) : Checked Unit :=
  if own then .report (lex.defect kind span) else pure ()

def setItemPieces (own : Bool) : SetItem → Checked (List Piece)
  | .range lo hi => pure [.span lo hi]
  | .set items => pure (items.map pieceOf)
  | .literal [c] _ => pure [.single c]
  | .literal text span => do
    reportOwn lex own
      (.invalidLiteral (String.ofList text) "only single characters can be negated") span
    return []
  | .ref ident =>
    match (lex.rule? ident.name).bind rulePieces? with
    | some pieces => pure pieces
    | none => do
      reportOwn lex own (.invalidCharSet ident.name
        "only rules that match a single character set can be negated") ident.span
      return []

def negatedPattern (own : Bool) (items : List SetItem) (span : Span) : Checked Pattern := do
  let pieces := (← Checked.each (setItemPieces lex own) items).flatten
  if pieces.isEmpty then
    reportOwn lex own (.invalidCharSet "~" "nothing to negate") span
    return .nothing
  else return .one ⟨true, pieces⟩

variable (own : Bool) (inline : Ident → Checked Pattern)

mutual

def atomPattern (span : Span) : Atom → Checked Pattern
  | .literal text => pure (.group (.literal text))
  | .range lo hi => pure (.one ⟨false, [.span lo hi]⟩)
  | .set items => pure (.one ⟨false, items.map pieceOf⟩)
  | .wildcard => pure .anyChar
  | .not items => negatedPattern lex own items span
  | .ref ident => inline ident
  | .group alternatives => do
    return .group (.choice (← alternativePatterns alternatives))

def elementPattern : ElementDecl → Checked Pattern
  | ⟨atom, none, span⟩ => atomPattern span atom
  | ⟨atom, some suffix, span⟩ => do
    return .loop suffix.kind suffix.greedy (← atomPattern span atom)

def elementPatterns : List ElementDecl → Checked (List Pattern)
  | [] => pure []
  | e :: es => do
    let p ← elementPattern e
    return p :: (← elementPatterns es)

def alternativePatterns : List AltDecl → Checked (List Pattern)
  | [] => pure []
  | ⟨elements, _, _, _, _⟩ :: rest => do
    let ps ← elementPatterns elements
    return .sequence ps :: (← alternativePatterns rest)

end

end OfRule

/-- The pattern of the rule a reference names. `stack` holds the names of the rules being inlined,
the outermost first, and `room` bounds how many more can follow. A cycle is reported by the rule
that starts it. -/
def inlineRule (lex : Lexicon) : Nat → List String → Ident → Checked Pattern
  | room, stack, ident =>
    match lex.rule? ident.name with
    | none => do
      let kind : Kind :=
        if lex.hasParserRule ident.name then
          .parserRuleInLexer ident.name (stack.head?.getD "")
        else .undefinedRule ident.name
      reportOwn lex (stack.length == 1) kind ident.span
      return .nothing
    | some rule =>
      match stack.idxOf? ident.name, room with
      | some 0, _ => do
        let chain := " -> ".intercalate (stack ++ [ident.name])
        Checked.report (lex.defect (.recursiveLexerRule chain) ident.span)
        return .nothing
      | some _, _ | none, 0 => pure .nothing
      | none, room + 1 => do
        let ps ← alternativePatterns lex false
          (inlineRule lex room (stack ++ [ident.name])) rule.alternatives
        return .group (.choice ps)

def ofAlternatives (lex : Lexicon) (rule : RuleDecl) (alternatives : List AltDecl) :
    Checked Pattern := do
  let inline := inlineRule lex lex.rules.length [rule.name.name]
  return .choice (← alternativePatterns lex true inline alternatives)

end GrammarWorkbench.Pattern
