import GrammarWorkbench.Diagnostic.Message
import GrammarWorkbench.Model.Grammar
import GrammarWorkbench.Run.Tree

/-!
# Parsing

Recursive descent over the parser rules with one token of lookahead. A mismatch is reported and
recovered from at once, so that a tree always results. Only the limit on the depth of rule calls
and a cancellation end a parse.
-/

set_option autoImplicit false

namespace GrammarWorkbench.Run

open GrammarWorkbench.Text GrammarWorkbench.Diagnostic GrammarWorkbench.Model

structure Parsed (α : Type) where
  value : α
  defects : List Defect
  rest : List Token

def Parse (α : Type) : Type := List Token → Except Defect (Parsed α)

namespace Parse

def value {α : Type} (a : α) : Parse α := fun ts => .ok ⟨a, [], ts⟩

def andThen {α β : Type} (m : Parse α) (f : α → Parse β) : Parse β := fun ts =>
  match m ts with
  | .error d => .error d
  | .ok r =>
    match f r.value r.rest with
    | .error d => .error d
    | .ok r' => .ok ⟨r'.value, r.defects ++ r'.defects, r'.rest⟩

instance : Monad Parse where
  pure := value
  bind := andThen

def abort {α : Type} (kind : Kind) : Parse α := fun _ => .error (.unplaced kind)

end Parse

structure ParserConfig where
  grammar : Grammar
  input : List Char
  endToken : Token
  limit : Nat
  isCancelled : Bool

def nextType : List Token → Nat
  | [] => endType
  | t :: _ => t.type

/-- Repeats a step as long as it is entered and reads something. The bound is the number of rounds
at most. -/
def repeatWhile (enters : Nat → Bool) (body : Parse (List Tree)) : Nat → Parse (List Tree)
  | 0 => pure []
  | n + 1 => fun ts =>
    if enters (nextType ts) then
      (do
        let first ← body
        let more ← fun ts' =>
          if ts'.length < ts.length then repeatWhile enters body n ts' else Parse.value [] ts'
        return first ++ more : Parse (List Tree)) ts
    else Parse.value [] ts

/-- Extends an operand by operators that bind tightly enough, as long as this reads something.
Each makes a new node of the rule with the operand as its first child. -/
def extendOperand (index : Nat) (operators : Operators Lookahead) (precedence : Nat)
    (run : Nat → Parse (List Tree)) : Nat → Tree → Parse Tree
  | 0, left => pure left
  | n + 1, left => fun ts =>
    match operators.predict (nextType ts) precedence with
    | none => Parse.value left ts
    | some i =>
      (do
        let children ← run i
        let node := Tree.rule index (left :: children)
        fun ts' =>
          if ts'.length < ts.length then
            extendOperand index operators precedence run n node ts'
          else Parse.value node ts' : Parse Tree) ts

section Steps

variable (p : ParserConfig)

def currentToken : List Token → Token
  | [] => p.endToken
  | t :: _ => t

def defectAt (kind : Kind) (ts : List Token) : Defect :=
  .inText p.input kind (currentToken p ts).span

def readToken (ts : List Token) : Tree × List Token := (.token (currentToken p ts), ts.tail)

def readError (ts : List Token) : Tree × List Token :=
  (.error (currentToken p ts).text (currentToken p ts).span, ts.tail)

def expectation (terminal : TokenMatch) : String :=
  match terminal with
  | .type t => p.grammar.vocabulary.displayName t
  | other => p.grammar.vocabulary.describe (other.first p.grammar.vocabulary)

/-- Reads a terminal. At the end of the input a missing token is made up. A token that is too many
is taken as an error if the one behind it fits, and else in place of the one expected. -/
def parseTerminal (terminal : TokenMatch) : Parse (List Tree) := fun ts =>
  if terminal.accepts (nextType ts) then
    let (leaf, rest) := readToken p ts
    .ok ⟨[leaf], [], rest⟩
  else
    let expected := expectation p terminal
    let current := currentToken p ts
    let found := current.display
    if current.isEnd then
      let leaf := Tree.error ("<missing " ++ expected ++ ">").toList (.empty current.span.start)
      .ok ⟨[leaf], [defectAt p (.missingToken expected found) ts], ts⟩
    else if terminal.accepts (nextType ts.tail) then
      let (skipped, rest) := readError p ts
      let (leaf, rest') := readToken p rest
      .ok ⟨[skipped, leaf], [defectAt p (.extraneousInput found expected) ts], rest'⟩
    else
      let (skipped, rest) := readError p ts
      .ok ⟨[skipped], [defectAt p (.mismatchedInput found expected) ts], rest⟩

def parseNothing : Parse (List Tree) := fun ts =>
  let current := currentToken p ts
  let defect := defectAt p (.noViableAlternative current.display) ts
  if current.isEnd then .ok ⟨[], [defect], ts⟩
  else
    let (skipped, rest) := readError p ts
    .ok ⟨[skipped], [defect], rest⟩

/-- The alternative to follow. A lone alternative is entered in any case. -/
def chooseAlternative (b : RuleBlock Lookahead) (type : Nat) : Option Nat :=
  match b.alternatives with
  | [_] => some 0
  | _ => RuleBlock.predict b type

/-- Whether the body of a loop is entered at a token type. A loop that is not greedy leaves what
can follow it. -/
def entersLoop (greedy : Bool) (exit body : Lookahead) (type : Nat) : Bool :=
  body.accepts type && (greedy || !exit.accepts type)

variable (call : Nat → Nat → Parse Tree)

mutual

def parseElement : Element Lookahead → Parse (List Tree)
  | .token terminal => parseTerminal p terminal
  | .rule index => do return [← call index 0]
  | .operand index precedence => do return [← call index precedence]
  | .block body => parseBlock body
  | .loop kind greedy exit ⟨note, alternatives⟩ =>
    let body := parseBlock ⟨note, alternatives⟩
    let enters := entersLoop greedy exit note
    let rounds : Parse (List Tree) := fun ts => repeatWhile enters body (ts.length + 1) ts
    match kind with
    | .optional => fun ts => if enters (nextType ts) then body ts else Parse.value [] ts
    | .zeroOrMore => rounds
    | .oneOrMore => do
      let first ← body
      return first ++ (← rounds)

def parseSequence : Sequence Lookahead → Parse (List Tree)
  | [] => pure []
  | e :: es => do
    let first ← parseElement e
    return first ++ (← parseSequence es)

def parseAlternative : List (RuleAlternative Lookahead) → Nat → Parse (List Tree)
  | [], _ => pure []
  | ⟨_, _, elements⟩ :: _, 0 => parseSequence elements
  | _ :: rest, n + 1 => parseAlternative rest n

def parseBlock : RuleBlock Lookahead → Parse (List Tree)
  | ⟨note, alternatives⟩ => fun ts =>
    match chooseAlternative ⟨note, alternatives⟩ (nextType ts) with
    | some i => parseAlternative alternatives i ts
    | none => parseNothing p ts

end

end Steps

/-- Calls a rule, with at most `room` calls inside one another. Of a split rule only operators of
at least a precedence are read. -/
def callRule (p : ParserConfig) : (room : Nat) → (index precedence : Nat) → Parse Tree
  | 0, _, _ => .abort (.recursionLimit p.limit)
  | room + 1, index, precedence =>
    if p.isCancelled then .abort .cancelled
    else
      match p.grammar.parserRules[index]? with
      | none => .abort (.internal s!"no parser rule with index {index}")
      | some rule => do
        let children ← parseBlock p (callRule p room) rule.block
        let node := Tree.rule index children
        match rule.operators with
        | none => return node
        | some operators =>
          let run := parseAlternative p (callRule p room) operators.block.alternatives
          fun ts => extendOperand index operators precedence run (ts.length + 1) node ts

def visibleTokens (tokens : List Token) : List Token := tokens.filter (·.channel == 0)

def parse (g : Grammar) (input : List Char) (tokens : List Token) (limit : Nat)
    (isCancelled : Bool) (start : Nat) : Except Defect (Tree × List Defect) :=
  let p : ParserConfig := ⟨g, input, .atEnd input, limit, isCancelled⟩
  match callRule p limit start 0 (visibleTokens tokens) with
  | .error d => .error d
  | .ok r => .ok (r.value, r.defects)

end GrammarWorkbench.Run
