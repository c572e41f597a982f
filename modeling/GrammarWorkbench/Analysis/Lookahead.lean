import GrammarWorkbench.Model.Block

/-!
# Lookahead of parser rules

For every rule, which token types can start it and whether it can match nothing. The table of all
rules is the least one that agrees with itself: starting from nothing, its entries are computed
anew in rounds until a round changes none of them.
-/

set_option autoImplicit false

namespace GrammarWorkbench.Analysis

open GrammarWorkbench.Model

abbrev Table := List Lookahead

namespace Table

def rule (t : Table) (index : Nat) : Lookahead := t[index]?.getD .bottom

end Table

section Look

variable {α : Type} (v : Vocabulary) (t : Table)

mutual

def elementLook : Element α → Lookahead
  | .token terminal => ⟨terminal.first v, false⟩
  | .rule index => t.rule index
  | .operand index _ => t.rule index
  | .block body => blockLook body
  | .loop kind _ _ body =>
    let l := blockLook body
    ⟨l.first, l.nullable || kind != .oneOrMore⟩

def sequenceLook : Sequence α → Lookahead
  | [] => .nothing
  | e :: es => (elementLook e).followedBy (sequenceLook es)

def choiceLook : List (RuleAlternative α) → Lookahead
  | [] => .bottom
  | ⟨_, _, elements⟩ :: rest => (sequenceLook elements).orElse (choiceLook rest)

/-- The lookahead of a block. A block without alternatives matches nothing at all. -/
def blockLook : RuleBlock α → Lookahead
  | ⟨_, alternatives⟩ =>
    if alternatives.isEmpty then .nothing else choiceLook alternatives

end

/-- The lookahead of a rule. Its operators can start it only behind an empty operand. -/
def ruleLook (r : ParserRule α) : Lookahead :=
  let l := blockLook v t r.block
  match r.operators with
  | some o => if l.nullable then ⟨l.first.union (blockLook v t o.block).first, true⟩ else l
  | none => l

end Look

section Count

variable {α : Type}

mutual

def elementTerminals : Element α → Nat
  | .token _ => 1
  | .rule _ => 0
  | .operand _ _ => 0
  | .block body => blockTerminals body
  | .loop _ _ _ body => blockTerminals body

def sequenceTerminals : Sequence α → Nat
  | [] => 0
  | e :: es => elementTerminals e + sequenceTerminals es

def choiceTerminals : List (RuleAlternative α) → Nat
  | [] => 0
  | ⟨_, _, elements⟩ :: rest => sequenceTerminals elements + choiceTerminals rest

def blockTerminals : RuleBlock α → Nat
  | ⟨_, alternatives⟩ => choiceTerminals alternatives

end

def ruleTerminals (r : ParserRule α) : Nat :=
  blockTerminals r.block + (r.operators.map (blockTerminals ·.block)).getD 0

end Count

/-- Computes the entries of a table anew from a number on, one after the other. Each is computed
from the table as it stands by then. -/
def refreshFrom {α : Type} (v : Vocabulary) : (index : Nat) → List (ParserRule α) → Table → Table
  | _, [], t => t
  | index, r :: rs, t => refreshFrom v (index + 1) rs (t.set index (ruleLook v t r))

def refresh {α : Type} (v : Vocabulary) (rules : List (ParserRule α)) (t : Table) : Table :=
  refreshFrom v 0 rules t

def settle {α : Type} (v : Vocabulary) (rules : List (ParserRule α)) : Nat → Table → Table
  | 0, t => t
  | n + 1, t =>
    let t' := refresh v rules t
    if t' = t then t else settle v rules n t'

/-- The lookahead of all rules. Every round but the last adds a token type to a rule or finds a
rule that can match nothing, which bounds the number of rounds. -/
def table {α : Type} (v : Vocabulary) (rules : List (ParserRule α)) : Table :=
  let types := rules.foldl (fun n r => n + ruleTerminals r) v.size
  settle v rules (rules.length * (types + 1) + 1) (rules.map fun _ => .bottom)

section Annotate

variable {α : Type} (v : Vocabulary) (t : Table)

mutual

def annotateElement (after : Lookahead) : Element α → Element Lookahead
  | .token terminal => .token terminal
  | .rule index => .rule index
  | .operand index precedence => .operand index precedence
  | .block body => .block (annotateBlock body)
  | .loop kind greedy _ body => .loop kind greedy after (annotateBlock body)

def annotateSequence : Sequence α → Sequence Lookahead
  | [] => []
  | e :: es => annotateElement (sequenceLook v t es) e :: annotateSequence es

def annotateChoice : List (RuleAlternative α) → List (RuleAlternative Lookahead)
  | [] => []
  | ⟨label, _, elements⟩ :: rest =>
    ⟨label, sequenceLook v t elements, annotateSequence elements⟩ :: annotateChoice rest

def annotateBlock : RuleBlock α → RuleBlock Lookahead
  | ⟨note, alternatives⟩ => ⟨blockLook v t ⟨note, alternatives⟩, annotateChoice alternatives⟩

end

def annotateRule (r : ParserRule α) : ParserRule Lookahead where
  name := r.name
  index := r.index
  block := annotateBlock v t r.block
  operators := r.operators.map fun o => ⟨annotateBlock v t o.block, o.precedence⟩
  span := r.span

end Annotate

end GrammarWorkbench.Analysis
