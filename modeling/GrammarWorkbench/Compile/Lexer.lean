import GrammarWorkbench.Compile.Tokens
import GrammarWorkbench.Model.Grammar
import GrammarWorkbench.Pattern.Limits
import GrammarWorkbench.Pattern.OfRule
import GrammarWorkbench.Text.Number

/-!
# Lexer modes of a grammar

The literals with tokens of their own come first in the default mode. Each lexer rule that makes
tokens is one token rule of its mode, or one for each alternative if these end in different
commands.
-/

set_option autoImplicit false

namespace GrammarWorkbench.Compile

open GrammarWorkbench.Text GrammarWorkbench.Declaration GrammarWorkbench.Diagnostic
open GrammarWorkbench.Model GrammarWorkbench.Pattern

def defaultMode : String := "DEFAULT_MODE"

def standardChannels : List String := ["DEFAULT_TOKEN_CHANNEL", "HIDDEN"]

structure CommandScope where
  source : List Char
  vocabulary : Vocabulary
  channels : List String
  modes : List String

namespace CommandScope

def channel? (s : CommandScope) (name : String) : Option Nat :=
  match decimal64? name.toList with
  | some n => some n
  | none => s.channels.idxOf? name

def mode? (s : CommandScope) (name : String) : Option Nat :=
  if name = defaultMode then some 0 else (s.modes.idxOf? name).map (· + 1)

def type? (s : CommandScope) (name : String) : Option Nat :=
  match s.vocabulary.typeOf? name with
  | some t => if t = endType then none else some t
  | none => none

def refuse (s : CommandScope) (kind : Kind) (span : Span) (action : TokenAction) :
    Checked TokenAction := do
  Checked.report (.inText s.source kind span)
  return action

end CommandScope

def applyCommand (s : CommandScope) (action : TokenAction) (c : Command) : Checked TokenAction :=
  let name := c.name.name
  match c.argument with
  | some arg =>
    if name = "skip" ∨ name = "more" ∨ name = "popMode" then
      s.refuse (.commandArgument name "takes no argument") arg.span action
    else if name = "type" then
      match s.type? arg.name with
      | some t => pure { action with retype := some t }
      | none => s.refuse (.undefinedToken arg.name) arg.span action
    else if name = "channel" then
      match s.channel? arg.name with
      | some n => pure { action with channel := n }
      | none => s.refuse (.undefinedChannel arg.name) arg.span action
    else if name = "mode" ∨ name = "pushMode" then
      match s.mode? arg.name with
      | some m =>
        let change : ModeChange := if name = "mode" then .set m else .push m
        pure { action with modeChanges := action.modeChanges ++ [change] }
      | none => s.refuse (.undefinedMode arg.name) arg.span action
    else s.refuse (.unknownCommand name) c.name.span action
  | none =>
    if name = "skip" then pure { action with skip := true }
    else if name = "more" then pure { action with more := true }
    else if name = "popMode" then
      pure { action with modeChanges := action.modeChanges ++ [.pop] }
    else if name = "type" ∨ name = "channel" ∨ name = "mode" ∨ name = "pushMode" then
      s.refuse (.commandArgument name "requires an argument") c.name.span action
    else s.refuse (.unknownCommand name) c.name.span action

def applyCommands (s : CommandScope) : TokenAction → List Command → Checked TokenAction
  | action, [] => pure action
  | action, c :: cs => do applyCommands s (← applyCommand s action c) cs

def actionOf (s : CommandScope) (alt : AltDecl) : Checked TokenAction :=
  applyCommands s .plain alt.commands

def allEqual {α : Type} [DecidableEq α] : List α → Bool
  | [] => true
  | a :: as => as.all (· = a)

def rulePatterns (lex : Lexicon) (rule : RuleDecl) (together : Bool) : Checked (List Pattern) :=
  if together then
    do return [← ofAlternatives lex rule rule.alternatives]
  else Checked.each (fun alt => ofAlternatives lex rule [alt]) rule.alternatives

/-- Puts a pattern of a rule to use, unless it matches the empty text or cannot be used. When the
rule has other defects these are not looked for. -/
def tokenRuleOf (source : List Char) (rule : RuleDecl) (type : Nat) (isClean : Bool)
    (pattern : Pattern) (action : TokenAction) : Checked (Option TokenRule) :=
  let defect (kind : Kind) : Defect := .inText source kind rule.name.span
  match pattern.refusal? with
  | some reason =>
    if isClean then .missing (defect (.patternCompile rule.name.name reason)) else pure none
  | none =>
    if isClean && pattern.matchesEmpty then .missing (defect (.emptyToken rule.name.name))
    else pure (some ⟨rule.name.name, type, pattern, action⟩)

def tokenRules (lex : Lexicon) (s : CommandScope) (rule : RuleDecl) : Checked (List TokenRule) := do
  let actions ← Checked.each (actionOf s) rule.alternatives
  let checkedPatterns := rulePatterns lex rule (allEqual actions)
  let isClean := checkedPatterns.defects.isEmpty
  let patterns ← checkedPatterns
  match s.vocabulary.typeOf? rule.name.name with
  | none => return []
  | some type =>
    Checked.eachSome
      (fun (pattern, action) => tokenRuleOf lex.source rule type isClean pattern action)
      (patterns.zip actions)

/-- The token rules of the lexer rules, each with the mode it belongs to. A fragment makes no
tokens, but its defects are reported. -/
def rulesByMode (lex : Lexicon) (s : CommandScope) : List RuleDecl →
    Checked (List (Nat × TokenRule))
  | [] => pure []
  | rule :: rest => do
    let own : List TokenRule ←
      if rule.fragment.isSome then do
        let _ ← ofAlternatives lex rule rule.alternatives
        pure []
      else tokenRules lex s rule
    return own.map (rule.mode, ·) ++ (← rulesByMode lex s rest)

def literalRule (v : Vocabulary) (literal : List Char × Nat) : Checked (Option TokenRule) :=
  let name := v.displayName literal.2
  let pattern := Pattern.literal literal.1
  match pattern.refusal? with
  | some reason => .missing (.unplaced (.patternCompile name reason))
  | none => pure (some ⟨name, literal.2, pattern, .plain⟩)

def lexerModes (lex : Lexicon) (s : CommandScope) (implicit : List (List Char × Nat))
    (lexerRules : List RuleDecl) : Checked (List LexerMode) := do
  let literals ← Checked.eachSome (literalRule s.vocabulary) implicit
  let rules ← rulesByMode lex s lexerRules
  let all : List (Nat × TokenRule) := literals.map (0, ·) ++ rules
  return (defaultMode :: s.modes).mapIdx fun i name =>
    ⟨name, (all.filter (·.1 == i)).map (·.2)⟩

end GrammarWorkbench.Compile
