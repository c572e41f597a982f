/-!
# What can go wrong

Every failure is one of the causes below. A cause knows the document it belongs to, its wording,
a code that names it, and sometimes an advice.
-/

set_option autoImplicit false

namespace GrammarWorkbench.Diagnostic

inductive Origin where
  | grammar
  | text
  | unknown
  deriving DecidableEq, Repr, Inhabited

def Origin.label : Origin → String
  | .grammar => "GRAMMAR"
  | .text => "TEXT"
  | .unknown => "UNKNOWN"

def Origin.phase : Origin → String
  | .grammar => "grammar"
  | .text => "text"
  | .unknown => "internal"

/-- The causes of failure, those of the grammar document first, then those of the input text,
then those that belong to neither. -/
inductive Kind where
  | grammarSyntax (message : String)
  | duplicateRule (name : String)
  | duplicateMode (name : String)
  | undefinedRule (name : String)
  | undefinedToken (name : String)
  | parserRuleInLexer (name rule : String)
  | lexerConstructInParser (construct rule : String)
  | fragmentParserRule (rule : String)
  | misplacedRule (rule grammar : String)
  | parserGrammarUnsupported
  | importUnsupported (name : String)
  | leftRecursion (chain : String)
  | noPrimaryAlternative (rule : String)
  | emptyToken (rule : String)
  | recursiveLexerRule (chain : String)
  | invalidCharSet (set reason : String)
  | invalidLiteral (literal reason : String)
  | unknownCommand (command : String)
  | commandArgument (command reason : String)
  | undefinedMode (name : String)
  | undefinedChannel (name : String)
  | noRules
  | unknownStartRule (name : String)
  | patternCompile (rule reason : String)
  | tokenRecognition (text : String)
  | mismatchedInput (found expected : String)
  | extraneousInput (found expected : String)
  | missingToken (expected found : String)
  | noViableAlternative (found : String)
  | emptyModeStack (text : String)
  | recursionLimit (limit : Nat)
  | cancelled
  | internal (message : String)
  deriving DecidableEq, Repr, Inhabited

namespace Kind

def origin : Kind → Origin
  | tokenRecognition _ | mismatchedInput .. | extraneousInput .. | missingToken ..
  | noViableAlternative _ | emptyModeStack _ => .text
  | recursionLimit _ | cancelled | internal _ => .unknown
  | _ => .grammar

def suffix : Kind → String
  | grammarSyntax _ => "syntax"
  | duplicateRule _ => "duplicate_rule"
  | duplicateMode _ => "duplicate_mode"
  | undefinedRule _ => "undefined_rule"
  | undefinedToken _ => "undefined_token"
  | parserRuleInLexer .. => "parser_rule_in_lexer"
  | lexerConstructInParser .. => "lexer_construct_in_parser"
  | fragmentParserRule _ => "fragment_parser_rule"
  | misplacedRule .. => "misplaced_rule"
  | parserGrammarUnsupported => "parser_grammar"
  | importUnsupported _ => "import"
  | leftRecursion _ => "left_recursion"
  | noPrimaryAlternative _ => "no_primary_alternative"
  | emptyToken _ => "empty_token"
  | recursiveLexerRule _ => "recursive_lexer_rule"
  | invalidCharSet .. => "invalid_char_set"
  | invalidLiteral .. => "invalid_literal"
  | unknownCommand _ => "unknown_command"
  | commandArgument .. => "command_argument"
  | undefinedMode _ => "undefined_mode"
  | undefinedChannel _ => "undefined_channel"
  | noRules => "no_rules"
  | unknownStartRule _ => "unknown_start_rule"
  | patternCompile .. => "pattern_compile"
  | tokenRecognition _ => "token_recognition"
  | mismatchedInput .. => "mismatched_input"
  | extraneousInput .. => "extraneous_input"
  | missingToken .. => "missing_token"
  | noViableAlternative _ => "no_viable_alternative"
  | emptyModeStack _ => "empty_mode_stack"
  | recursionLimit _ => "recursion_limit"
  | cancelled => "cancelled"
  | internal _ => "internal"

def code (k : Kind) : String := s!"headlights::{k.origin.phase}::{k.suffix}"

def message : Kind → String
  | grammarSyntax m => s!"syntax error: {m}"
  | duplicateRule n => s!"rule {n} redefinition"
  | duplicateMode n => s!"mode {n} redefinition"
  | undefinedRule n => s!"reference to undefined rule: {n}"
  | undefinedToken n => s!"undefined token: {n}"
  | parserRuleInLexer n r => s!"parser rule {n} not allowed in lexer rule {r}"
  | lexerConstructInParser c r => s!"{c} not allowed in parser rule {r}"
  | fragmentParserRule r => s!"fragment is only allowed on lexer rules, not on {r}"
  | misplacedRule r g => s!"{g} grammars cannot contain rule {r}"
  | parserGrammarUnsupported =>
    "parser grammars need an external token vocabulary; use a combined grammar"
  | importUnsupported n => s!"grammar imports are not supported: {n}"
  | leftRecursion c => s!"unsupported left recursion: {c}"
  | noPrimaryAlternative r =>
    s!"left-recursive rule {r} needs an alternative that is not left-recursive"
  | emptyToken r => s!"non-fragment lexer rule {r} can match the empty string"
  | recursiveLexerRule c => s!"lexer rules must not be recursive: {c}"
  | invalidCharSet s r => s!"invalid character set {s}: {r}"
  | invalidLiteral l r => s!"invalid literal {l}: {r}"
  | unknownCommand c => s!"lexer command {c} is not supported"
  | commandArgument c r => s!"lexer command {c}: {r}"
  | undefinedMode n => s!"undefined lexer mode {n}"
  | undefinedChannel n => s!"undefined channel {n}"
  | noRules => "grammar defines no rules"
  | unknownStartRule n => s!"start rule {n} is not a parser rule of this grammar"
  | patternCompile r m => s!"lexer rule {r} cannot be compiled: {m}"
  | tokenRecognition t => s!"token recognition error at: '{t}'"
  | mismatchedInput f e => s!"mismatched input {f} expecting {e}"
  | extraneousInput f e => s!"extraneous input {f} expecting {e}"
  | missingToken e f => s!"missing {e} at {f}"
  | noViableAlternative f => s!"no viable alternative at input {f}"
  | emptyModeStack t => s!"popMode with an empty mode stack at: '{t}'"
  | recursionLimit n => s!"recursion depth limit of {n} exceeded"
  | cancelled => "interpretation cancelled"
  | internal m => s!"internal error: {m}"

def help? : Kind → Option String
  | leftRecursion _ => some ("only a rule that starts an alternative with itself is supported, " ++
      "e.g. `expr : expr '+' expr | INT ;`")
  | noPrimaryAlternative _ =>
    some "add an alternative such as `INT` that starts with something else"
  | parserGrammarUnsupported =>
    some "declare the grammar as `grammar Name;` and add the lexer rules to it"
  | emptyToken _ => some "make the rule a fragment or require at least one character"
  | internal _ => some "this is an engine bug, please report it"
  | _ => none

end Kind

end GrammarWorkbench.Diagnostic
