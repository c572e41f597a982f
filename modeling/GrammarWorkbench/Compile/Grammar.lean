import GrammarWorkbench.Compile.Lexer
import GrammarWorkbench.Compile.Parser
import GrammarWorkbench.Declaration.Read

/-!
# Compiling a grammar

A grammar document is read, checked and compiled. All checks run to their end, and a grammar is
handed out only if none of them found a defect.
-/

set_option autoImplicit false

namespace GrammarWorkbench.Compile

open GrammarWorkbench.Text GrammarWorkbench.Declaration GrammarWorkbench.Diagnostic
open GrammarWorkbench.Model GrammarWorkbench.Pattern

def repeated {α : Type} (key : α → String) : List String → List α → List α
  | _, [] => []
  | seen, a :: as =>
    if seen.contains (key a) then a :: repeated key seen as
    else repeated key (key a :: seen) as

def firstOfEach {α : Type} (key : α → String) : List String → List α → List α
  | _, [] => []
  | seen, a :: as =>
    if seen.contains (key a) then firstOfEach key seen as
    else a :: firstOfEach key (key a :: seen) as

def misplacedIn? (kind : GrammarKind) (rule : RuleDecl) : Option String :=
  match kind, rule.isLexerRule with
  | .lexer, false => some "lexer"
  | .parser, true => some "parser"
  | _, _ => none

def ruleDefects (source : List Char) (kind : GrammarKind) (rule : RuleDecl) : List Defect :=
  let name := rule.name.name
  let misplaced : List Defect :=
    match misplacedIn? kind rule with
    | some grammar => [.inText source (.misplacedRule name grammar) rule.name.span]
    | none => []
  let fragment : List Defect :=
    match rule.fragment with
    | some span =>
      if rule.isLexerRule then [] else [.inText source (.fragmentParserRule name) span]
    | none => []
  misplaced ++ fragment

def allRuleDefects (source : List Char) (kind : GrammarKind) :
    List String → List RuleDecl → List Defect
  | _, [] => []
  | seen, r :: rs =>
    let name := r.name.name
    if seen.contains name then
      .inText source (.duplicateRule name) r.name.span :: allRuleDefects source kind seen rs
    else ruleDefects source kind r ++ allRuleDefects source kind (name :: seen) rs

def grammarDefects (source : List Char) (g : GrammarDecl) : List Defect :=
  let unsupported : List Defect :=
    if g.kind = .parser then
      [.inText source .parserGrammarUnsupported
        ((g.header.map (·.name.span)).getD (.empty 0))]
    else []
  let imports := g.imports.map fun i => Defect.inText source (.importUnsupported i.name) i.span
  let noRules : List Defect := if g.rules.isEmpty then [.unplaced .noRules] else []
  let modes := (repeated Ident.name [defaultMode] g.modes).map fun m =>
    Defect.inText source (.duplicateMode m.name) m.span
  unsupported ++ imports ++ noRules ++ modes ++ allRuleDefects source g.kind [] g.rules

def ruleInfo (parserNames : List String) (r : RuleDecl) : RuleInfo where
  name := r.name.name
  kind :=
    match parserNames.idxOf? r.name.name with
    | some i => .parser i
    | none => .lexer r.fragment.isSome r.mode
  span := r.span

def startRule (ruleNames : List String) : Option String → Checked (Option Nat)
  | none => pure (if ruleNames.isEmpty then none else some 0)
  | some name =>
    match ruleNames.idxOf? name with
    | some i => pure (some i)
    | none => .missing (.unplaced (.unknownStartRule name))

def grammarOf (source : List Char) (start : Option String) (g : GrammarDecl) :
    Checked Grammar := do
  let _ ← Checked.each Checked.report (grammarDefects source g)
  let rules := firstOfEach (fun (r : RuleDecl) => r.name.name) [] g.rules
  let lexerDecls := rules.filter (·.isLexerRule)
  let parserDecls := rules.filter (!·.isLexerRule)
  let types := declareTokens g.tokens lexerDecls parserDecls
  let channels := standardChannels ++ g.channels.map (·.name)
  let scope : CommandScope := ⟨source, types.vocabulary, channels, g.modes.map (·.name)⟩
  let modes ← lexerModes ⟨source, g.rules⟩ scope types.implicit lexerDecls
  let parserRules ← parserRules source types parserDecls
  let parserNames := parserRules.map (·.name)
  let start ← startRule parserNames start
  return {
    name := g.header.map (·.name.name)
    kind := g.kind
    rules := rules.map (ruleInfo parserNames)
    parserRules := parserRules
    startRule := start
    vocabulary := types.vocabulary
    modes := modes
    channels := channels }

end GrammarWorkbench.Compile

namespace GrammarWorkbench

open GrammarWorkbench.Diagnostic GrammarWorkbench.Declaration

/-- Compiles a grammar document, with a start rule if one is asked for. On failure all defects are
given by the place where they start. -/
def compile (text : List Char) (start : Option String) : Except (List Defect) Model.Grammar :=
  match read text with
  | .error d => .error [d]
  | .ok decl =>
    let grammar := do Compile.grammarOf text start (← decl)
    if grammar.defects.isEmpty then .ok grammar.value else .error (Defect.sort grammar.defects)

end GrammarWorkbench
