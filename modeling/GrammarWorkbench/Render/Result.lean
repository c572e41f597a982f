import GrammarWorkbench.Render.Json
import GrammarWorkbench.Run.Interpret

/-!
# The text of a result

A result is printed as a list of tokens, as an outline of its tree, as its tree on one line, or as
a whole in JSON. A result without an analysis prints nothing, except in JSON.
-/

set_option autoImplicit false

namespace GrammarWorkbench.Render

open GrammarWorkbench.Text GrammarWorkbench.Diagnostic GrammarWorkbench.Run

inductive Format where
  | tokens
  | tree
  | lisp
  | json
  deriving DecidableEq, Repr

namespace Format

def name : Format → String
  | tokens => "tokens"
  | tree => "tree"
  | lisp => "lisp"
  | json => "json"

def ofName? (name : String) : Option Format :=
  [tokens, tree, lisp, json].find? fun f => f.name == name

end Format

def tokenLine (t : Token) : String :=
  let channel := if t.channel = 0 then "" else s!" channel={t.channel}"
  t.position.render ++ " " ++ t.typeName ++ " " ++ t.display ++ channel ++ "\n"

def tokenLines (ts : List Token) : String := String.join (ts.map tokenLine)

def jsonNat (n : Nat) : Json := .number n

def jsonText (cs : List Char) : Json := .string (String.ofList cs)

def jsonSpan (s : Span) : Json := .object [("start", jsonNat s.start), ("end", jsonNat s.stop)]

def tokenFields (t : Token) : List (String × Json) := [
  ("type", .string t.typeName),
  ("type_id", jsonNat t.type),
  ("text", jsonText t.text),
  ("start", jsonNat t.span.start),
  ("end", jsonNat t.span.stop),
  ("line", jsonNat t.position.line),
  ("column", jsonNat t.position.column),
  ("channel", jsonNat t.channel)]

mutual

def jsonTree : Tree → Json
  | .rule i children =>
    .object [
      ("node", .string "rule"),
      ("rule_index", jsonNat i),
      ("children", .list (jsonTrees children))]
  | .token t => .object (("node", .string "token") :: tokenFields t)
  | .error text s =>
    .object [("node", .string "error"), ("text", jsonText text), ("span", jsonSpan s)]

def jsonTrees : List Tree → List Json
  | [] => []
  | t :: ts => jsonTree t :: jsonTrees ts

end

def jsonAnalysis : Option Analysis → Json
  | none => .null
  | some (.tokens ts) =>
    .object [("kind", .string "tokens"), ("value", .list (ts.map fun t => .object (tokenFields t)))]
  | some (.tree t) => .object [("kind", .string "tree"), ("value", jsonTree t)]

def jsonMessage (m : Message) : Json :=
  let span := (m.span.map fun s => ("span", jsonSpan s)).toList
  .object ([
    ("line", .number m.line),
    ("column", .number m.column),
    ("message", .string m.text),
    ("source", .string m.origin.label),
    ("code", .string m.code)] ++ span)

def jsonResult (r : Interpretation) : Json := .object [
  ("rule_names", .list (r.ruleNames.map .string)),
  ("analysis", jsonAnalysis r.analysis),
  ("errors", .list (r.messages.map jsonMessage))]

/-- A result in a format. A list of tokens is printed the same way in all formats but JSON. -/
def renderResult (r : Interpretation) (format : Format) : String :=
  match format, r.analysis with
  | .json, _ => (jsonResult r).render
  | _, none => ""
  | _, some (.tokens ts) => tokenLines ts
  | .tokens, some (.tree t) => tokenLines t.leafTokens
  | .lisp, some (.tree t) => t.lisp r.ruleNames ++ "\n"
  | .tree, some (.tree t) => t.outline r.ruleNames

structure Report where
  message : String
  code : String
  label : Option (Span × Origin)
  deriving DecidableEq, Repr

/-- The report of a message. Only a message of a document with a known span points anywhere. -/
def reportOf (m : Message) : Report where
  message := m.text
  code := m.code
  label :=
    match m.origin, m.span with
    | .unknown, _ | _, none => none
    | origin, some span => some (span, origin)

end GrammarWorkbench.Render
