import GrammarWorkbench.Recognizer.Run
import GrammarWorkbench.Text.Scan

/-!
# The phrases of a grammar document

The rules by which a grammar document is recognised, and the names under which they are expected
in a syntax error. Blanks and comments may stand between any two parts of a phrase that is not a
token.
-/

set_option autoImplicit false

namespace GrammarWorkbench.Declaration

open GrammarWorkbench.Recognizer GrammarWorkbench.Text

/-- The kinds of phrase, in the order in which an error lists them. -/
inductive Phrase where
  | documentEnd
  | identChar
  | identifier
  | integer
  | kwGrammar
  | kwLexer
  | kwParser
  | kwFragment
  | kwOptions
  | kwTokens
  | kwChannels
  | kwImport
  | kwMode
  | kwReturns
  | kwLocals
  | stringLiteral
  | charSet
  | actionString
  | actionBlock
  | argAction
  | elementOptions
  | suffix
  | document
  | header
  | headerKind
  | prequel
  | optionsSpec
  | optionEntry
  | optionValue
  | tokensSpec
  | channelsSpec
  | importSpec
  | namedAction
  | modeSpec
  | ruleSpec
  | fragmentModifier
  | rulePrequel
  | alternatives
  | alternative
  | alternativeLabel
  | lexerCommands
  | lexerCommand
  | element
  | actionElement
  | predicateMark
  | elementLabel
  | atom
  | range
  | notSet
  | setGroup
  | setItem
  | wildcard
  | group
  | ruleRef
  deriving DecidableEq, Repr

namespace Phrase

def inOrder : List Phrase := [
  documentEnd, identChar, identifier, integer, kwGrammar, kwLexer, kwParser, kwFragment,
  kwOptions, kwTokens, kwChannels, kwImport, kwMode, kwReturns, kwLocals, stringLiteral, charSet,
  actionString, actionBlock, argAction, elementOptions, suffix, document, header, headerKind,
  prequel, optionsSpec, optionEntry, optionValue, tokensSpec, channelsSpec, importSpec,
  namedAction, modeSpec, ruleSpec, fragmentModifier, rulePrequel, alternatives, alternative,
  alternativeLabel, lexerCommands, lexerCommand, element, actionElement, predicateMark,
  elementLabel, atom, range, notSet, setGroup, setItem, wildcard, group, ruleRef]

def describe : Phrase → String
  | documentEnd => "end of grammar"
  | identChar => "ident_char"
  | identifier => "identifier"
  | integer => "integer"
  | kwGrammar => "kw_grammar"
  | kwLexer => "kw_lexer"
  | kwParser => "kw_parser"
  | kwFragment => "kw_fragment"
  | kwOptions => "kw_options"
  | kwTokens => "kw_tokens"
  | kwChannels => "kw_channels"
  | kwImport => "kw_import"
  | kwMode => "kw_mode"
  | kwReturns => "kw_returns"
  | kwLocals => "kw_locals"
  | stringLiteral => "string literal"
  | charSet => "character set"
  | actionString => "action_string"
  | actionBlock => "action"
  | argAction => "arg_action"
  | elementOptions => "element options"
  | suffix => "'?', '*' or '+'"
  | document => "grammar_file"
  | header => "grammar header"
  | headerKind => "grammar_kind"
  | prequel => "prequel"
  | optionsSpec => "options_spec"
  | optionEntry => "option"
  | optionValue => "option_value"
  | tokensSpec => "tokens_spec"
  | channelsSpec => "channels_spec"
  | importSpec => "import_spec"
  | namedAction => "named_action"
  | modeSpec => "mode declaration"
  | ruleSpec => "rule"
  | fragmentModifier => "fragment_mod"
  | rulePrequel => "rule_prequel"
  | alternatives | alternative | element => "rule element"
  | alternativeLabel => "alternative label"
  | lexerCommands => "'->'"
  | lexerCommand => "lexer command"
  | actionElement => "action_element"
  | predicateMark => "predicate_mark"
  | elementLabel => "label"
  | atom => "atom"
  | range => "range"
  | notSet => "not_set"
  | setGroup => "set_group"
  | setItem => "set_item"
  | wildcard => "wildcard"
  | group => "group"
  | ruleRef => "rule_ref"

/-- Tokens allow no layout inside, and silent phrases leave no node. -/
def style : Phrase → Style
  | identifier | integer | kwGrammar | kwLexer | kwParser | kwFragment | kwOptions | kwTokens
  | kwChannels | kwImport | kwMode | kwReturns | kwLocals | stringLiteral | charSet | actionBlock
  | argAction | elementOptions | suffix => .token
  | identChar | actionString | prequel | rulePrequel | atom | setItem => .silent
  | _ => .plain

open Expr

def keyword (word : String) : Expr Phrase := .seq (lit word) (.unless (.rule identChar))

def escapedOr (stop : String) : Expr Phrase :=
  .choice (.seq (lit "\\") any) (noneOf stop)

def separated (sep : String) (item : Expr Phrase) : Expr Phrase :=
  .seq item (.many (.seq (lit sep) item))

def nameBlock : Expr Phrase :=
  chain (lit "\x7b") [.optional (chain (.rule identifier) [
    .many (.seq (lit ",") (.rule identifier)), .optional (lit ",")]), lit "\x7d"]

def renamed : Expr Phrase :=
  .seq (.rule identifier) (.optional (.seq (lit "=") (.rule identifier)))

def body : Phrase → Expr Phrase
  | documentEnd => .finish
  | identChar => .char fun c => c.isAlphanum || c == '_'
  | identifier => .seq (.char fun c => c.isAlpha || c == '_') (.many (.rule identChar))
  | integer => .seq (.char Char.isDigit) (.many (.char Char.isDigit))
  | kwGrammar => keyword "grammar"
  | kwLexer => keyword "lexer"
  | kwParser => keyword "parser"
  | kwFragment => keyword "fragment"
  | kwOptions => keyword "options"
  | kwTokens => keyword "tokens"
  | kwChannels => keyword "channels"
  | kwImport => keyword "import"
  | kwMode => keyword "mode"
  | kwReturns => keyword "returns"
  | kwLocals => keyword "locals"
  | stringLiteral => chain (lit "'") [.many (escapedOr "'\\\n\r"), lit "'"]
  | charSet => chain (lit "[") [.many (escapedOr "]\\\n\r"), lit "]"]
  | actionString => chain (lit "\"") [.many (escapedOr "\"\\"), lit "\""]
  | actionBlock => chain (lit "\x7b") [
      .many (first (.rule actionBlock) [.rule actionString, noneOf "\x7b\x7d"]), lit "\x7d"]
  | argAction => chain (lit "[") [.many (.choice (.rule argAction) (noneOf "[]")), lit "]"]
  | elementOptions => chain (lit "<") [.many (noneOf ">"), lit ">"]
  | suffix => .seq (oneOf "?*+") (.optional (lit "?"))
  | document => chain nothing [.optional (.rule header), .many (.rule prequel),
      .many (.choice (.rule modeSpec) (.rule ruleSpec)), .rule documentEnd]
  | header => chain (.optional (.rule headerKind)) [.rule kwGrammar, .rule identifier, lit ";"]
  | headerKind => .choice (.rule kwLexer) (.rule kwParser)
  | prequel => first (.rule optionsSpec)
      [.rule tokensSpec, .rule channelsSpec, .rule importSpec, .rule namedAction]
  | optionsSpec => chain (.rule kwOptions) [lit "\x7b", .many (.rule optionEntry), lit "\x7d"]
  | optionEntry => chain (.rule identifier) [lit "=", .rule optionValue, lit ";"]
  | optionValue => first (.rule stringLiteral)
      [.rule integer, .rule actionBlock, separated "." (.rule identifier)]
  | tokensSpec => .seq (.rule kwTokens) nameBlock
  | channelsSpec => .seq (.rule kwChannels) nameBlock
  | importSpec => chain (.rule kwImport) [separated "," renamed, lit ";"]
  | namedAction => chain (lit "@") [.optional (.seq (.rule identifier) (lit "::")),
      .rule identifier, .rule actionBlock]
  | modeSpec => chain (.rule kwMode) [.rule identifier, lit ";"]
  | ruleSpec => chain (.optional (.rule fragmentModifier)) [.rule identifier, .rule rulePrequel,
      lit ":", .rule alternatives, lit ";"]
  | fragmentModifier => .rule kwFragment
  | rulePrequel => chain (.optional (.rule argAction)) [
      .optional (.seq (.rule kwReturns) (.rule argAction)),
      .optional (.seq (.rule kwLocals) (.rule argAction)),
      .many (.choice (.rule optionsSpec) (.rule namedAction))]
  | alternatives => separated "|" (.rule alternative)
  | alternative => chain (.optional (.rule elementOptions)) [.many (.rule element),
      .optional (.rule alternativeLabel), .optional (.rule lexerCommands)]
  | alternativeLabel => .seq (lit "#") (.rule identifier)
  | lexerCommands => .seq (lit "->") (separated "," (.rule lexerCommand))
  | lexerCommand => .seq (.rule identifier)
      (.optional (chain (lit "(") [.choice (.rule identifier) (.rule integer), lit ")"]))
  | element => .choice (.rule actionElement)
      (chain (.optional (.rule elementLabel)) [.rule atom, .optional (.rule suffix)])
  | actionElement => .seq (.rule actionBlock) (.optional (.rule predicateMark))
  | predicateMark => lit "?"
  | elementLabel => .seq (.rule identifier) (.choice (lit "+=") (lit "="))
  | atom => first (.rule range) [.rule notSet, .rule stringLiteral, .rule charSet, .rule wildcard,
      .rule group, .rule ruleRef]
  | range => chain (.rule stringLiteral) [lit "..", .rule stringLiteral]
  | notSet => .seq (lit "~") (first (.rule setGroup)
      [.rule range, .rule stringLiteral, .rule charSet, .rule ruleRef])
  | setGroup => chain (lit "(") [separated "|" (.rule setItem), lit ")"]
  | setItem => first (.rule range) [.rule stringLiteral, .rule charSet, .rule ruleRef]
  | wildcard => lit "."
  | group => chain (lit "(") [.optional (.seq (.rule optionsSpec) (lit ":")), .rule alternatives,
      lit ")"]
  | ruleRef => .seq (.rule identifier) (.optional (.rule elementOptions))

def isLayoutBlank (c : Char) : Bool :=
  c == ' ' || c == '\t' || c == '\r' || c == '\n' || c == '\x0c'

/-- Splits off the comment at the start of a text. A comment behind two slashes leaves the line
feed at its end. -/
def splitComment : List Char → Option (List Char × List Char)
  | '/' :: '*' :: cs =>
    (splitAt? ['*', '/'] cs).map fun (inside, rest) =>
      ('/' :: '*' :: inside ++ ['*', '/'], rest)
  | '/' :: '/' :: cs => some ('/' :: '/' :: cs.takeWhile (· != '\n'), cs.dropWhile (· != '\n'))
  | _ => none

/-- Splits off blanks and at most `n` comments, each with blanks behind it. -/
def splitLayout : Nat → List Char → List Char × List Char
  | 0, cs => (cs.takeWhile isLayoutBlank, cs.dropWhile isLayoutBlank)
  | n + 1, cs =>
    let blanks := cs.takeWhile isLayoutBlank
    let rest := cs.dropWhile isLayoutBlank
    match splitComment rest with
    | none => (blanks, rest)
    | some (comment, rest') =>
      let (more, rest'') := splitLayout n rest'
      (blanks ++ comment ++ more, rest'')

def rules : Rules Phrase where
  body := body
  style := style
  layout := fun cs => splitLayout cs.length cs

end Phrase

end GrammarWorkbench.Declaration
