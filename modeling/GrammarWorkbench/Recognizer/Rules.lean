import GrammarWorkbench.Text.Position

/-!
# Rules for recognising a text

A text is described by rules whose bodies are expressions with ordered choice: the first branch
that matches is taken, and an option or a repetition takes what it can and never gives it back.
-/

set_option autoImplicit false

namespace GrammarWorkbench.Recognizer

open GrammarWorkbench.Text

inductive Expr (ρ : Type) where
  | char (test : Char → Bool)
  | text (chars : List Char)
  | finish
  | rule (r : ρ)
  | seq (first second : Expr ρ)
  | choice (first second : Expr ρ)
  | optional (body : Expr ρ)
  | many (body : Expr ρ)
  | unless (body : Expr ρ)

namespace Expr

def any {ρ : Type} : Expr ρ := .char fun _ => true

def lit {ρ : Type} (s : String) : Expr ρ := .text s.toList

def oneOf {ρ : Type} (s : String) : Expr ρ := .char fun c => s.toList.contains c

def noneOf {ρ : Type} (s : String) : Expr ρ := .char fun c => !s.toList.contains c

def nothing {ρ : Type} : Expr ρ := .text []

def chain {ρ : Type} : Expr ρ → List (Expr ρ) → Expr ρ
  | e, [] => e
  | e, e' :: es => .seq e (chain e' es)

def first {ρ : Type} : Expr ρ → List (Expr ρ) → Expr ρ
  | e, [] => e
  | e, e' :: es => .choice e (first e' es)

end Expr

/-- How a rule takes part in recognition. A `plain` rule leaves a node and allows layout between
the parts of its sequences. A `silent` rule does the same but leaves no node of its own. A
`token` rule leaves a node without children and allows no layout. -/
inductive Style where
  | plain
  | silent
  | token
  deriving DecidableEq, Repr

structure Rules (ρ : Type) where
  body : ρ → Expr ρ
  style : ρ → Style
  layout : List Char → List Char × List Char

structure Place where
  rest : List Char
  offset : Nat

namespace Place

def after (p : Place) (taken rest : List Char) : Place := ⟨rest, p.offset + byteLength taken⟩

end Place

inductive Node (ρ : Type) where
  | mk (rule : ρ) (span : Span) (text : List Char) (children : List (Node ρ))

namespace Node

variable {ρ : Type}

def rule : Node ρ → ρ
  | mk r _ _ _ => r

def span : Node ρ → Span
  | mk _ s _ _ => s

def text : Node ρ → List Char
  | mk _ _ t _ => t

def children : Node ρ → List (Node ρ)
  | mk _ _ _ cs => cs

end Node

structure Attempts (ρ : Type) where
  furthest : Nat
  expected : List ρ

namespace Attempts

variable {ρ : Type}

def none : Attempts ρ := ⟨0, []⟩

def countAt (a : Attempts ρ) (offset : Nat) : Nat :=
  if offset = a.furthest then a.expected.length else 0

/-- The failure of rule `r` at `offset`, where `before` is what was known when it was entered.
When exactly one rule was tried inside it at the same offset, that rule stands for it. Otherwise
the rule takes the place of what was tried inside it. -/
def fail (before a : Attempts ρ) (r : ρ) (offset : Nat) : Attempts ρ :=
  if a.countAt offset = before.countAt offset + 1 then a
  else if offset = a.furthest then
    { a with expected := a.expected.take (before.countAt offset) ++ [r] }
  else if a.furthest < offset then ⟨offset, [r]⟩
  else a

end Attempts

end GrammarWorkbench.Recognizer
