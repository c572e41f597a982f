import GrammarWorkbench.Declaration.Basic
import GrammarWorkbench.Model.Vocabulary

/-!
# Parser rules

The body of a parser rule is a block: a choice of alternatives, each a sequence of elements.
Blocks, alternatives and the ends of loops carry a note, which is nothing at first and the
lookahead once it has been computed.

A rule that starts some of its alternatives with itself is split. Its block holds the alternatives
that do not, and its operators hold the others without the leading reference: each of them extends
an operand that has been read already.
-/

set_option autoImplicit false

namespace GrammarWorkbench.Model

open GrammarWorkbench.Text GrammarWorkbench.Declaration

structure Alternative (α ε : Type) where
  label : Option String
  note : α
  elements : List ε

structure Block (α ε : Type) where
  note : α
  alternatives : List (Alternative α ε)

/-- A part of an alternative. An `operand` calls a split rule for the operators of at least a
precedence. The note of a loop is about what follows it. -/
inductive Element (α : Type) where
  | token (terminal : TokenMatch)
  | rule (index : Nat)
  | operand (rule precedence : Nat)
  | block (body : Block α (Element α))
  | loop (kind : RepeatKind) (greedy : Bool) (exit : α) (body : Block α (Element α))

abbrev Sequence (α : Type) := List (Element α)

abbrev RuleAlternative (α : Type) := Alternative α (Element α)

abbrev RuleBlock (α : Type) := Block α (Element α)

/-- The operators of a split rule, with the precedence of each alternative. Earlier alternatives
of the rule bind tighter and have higher numbers. -/
structure Operators (α : Type) where
  block : RuleBlock α
  precedence : List Nat

structure ParserRule (α : Type) where
  name : String
  index : Nat
  block : RuleBlock α
  operators : Option (Operators α)
  span : Span

structure Lookahead where
  first : TokenSet
  nullable : Bool
  deriving DecidableEq, Inhabited

namespace Lookahead

def accepts (l : Lookahead) (type : Nat) : Bool := l.first.contains type

def bottom : Lookahead := ⟨.empty, false⟩

def nothing : Lookahead := ⟨.empty, true⟩

def followedBy (l r : Lookahead) : Lookahead :=
  if l.nullable then ⟨l.first.union r.first, r.nullable⟩ else l

def orElse (l r : Lookahead) : Lookahead := ⟨l.first.union r.first, l.nullable || r.nullable⟩

end Lookahead

/-- The alternative of a block for a token type: the first that can start with it, else the first
that can match nothing. -/
def RuleBlock.predict (b : RuleBlock Lookahead) (type : Nat) : Option Nat :=
  match b.alternatives.findIdx? (·.note.accepts type) with
  | some i => some i
  | none => b.alternatives.findIdx? (·.note.nullable)

/-- The first operator that can start with a token type and binds at least as tightly as
`atLeast`. -/
def Operators.predict (o : Operators Lookahead) (type atLeast : Nat) : Option Nat :=
  (o.block.alternatives.zip o.precedence).findIdx? fun (alt, level) =>
    atLeast ≤ level && alt.note.accepts type

end GrammarWorkbench.Model
