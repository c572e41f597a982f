import GrammarWorkbench.Recognizer.Rules

/-!
# Running rules on a text

`runExpr` follows the shape of an expression; the rules it calls are run by a function it is
given. `runRule` ties the knot with a bound on how deep rules call one another, and `recognize`
chooses the bound from the length of the text.
-/

set_option autoImplicit false

namespace GrammarWorkbench.Recognizer

open GrammarWorkbench.Text

variable {ρ : Type}

structure Outcome (ρ : Type) where
  attempts : Attempts ρ
  result : Option (List (Node ρ) × Place)

abbrev Matcher (ρ : Type) := Place → Attempts ρ → Outcome ρ

def dropText? : List Char → List Char → Option (List Char)
  | [], cs => some cs
  | _ :: _, [] => none
  | t :: ts, c :: cs => if t = c then dropText? ts cs else none

def skipLayout (rules : Rules ρ) (inToken : Bool) (p : Place) : Place :=
  if inToken then p
  else
    let (taken, rest) := rules.layout p.rest
    p.after taken rest

/-- Matches again and again, with layout before each match. Layout that no match follows is not
taken. The bound is the number of trials at most. -/
def runAgain (skip : Place → Place) (item : Matcher ρ) :
    Nat → Place → Attempts ρ → Attempts ρ × List (Node ρ) × Place
  | 0, p, a => (a, [], p)
  | n + 1, p, a =>
    let o := item (skip p) a
    match o.result with
    | none => (o.attempts, [], p)
    | some (nodes, q) =>
      let (a', more, q') := runAgain skip item n q o.attempts
      (a', nodes ++ more, q')

def runExpr (rules : Rules ρ) (call : ρ → Matcher ρ) (inToken : Bool) : Expr ρ → Matcher ρ
  | .char test, p, a =>
    match p.rest with
    | [] => ⟨a, none⟩
    | c :: cs => if test c then ⟨a, some ([], p.after [c] cs)⟩ else ⟨a, none⟩
  | .text t, p, a => ⟨a, (dropText? t p.rest).map fun cs => ([], p.after t cs)⟩
  | .finish, p, a => ⟨a, if p.rest.isEmpty then some ([], p) else none⟩
  | .rule r, p, a => call r p a
  | .seq e₁ e₂, p, a =>
    let o₁ := runExpr rules call inToken e₁ p a
    match o₁.result with
    | none => o₁
    | some (nodes₁, q) =>
      let o₂ := runExpr rules call inToken e₂ (skipLayout rules inToken q) o₁.attempts
      ⟨o₂.attempts, o₂.result.map fun (nodes₂, q') => (nodes₁ ++ nodes₂, q')⟩
  | .choice e₁ e₂, p, a =>
    let o₁ := runExpr rules call inToken e₁ p a
    match o₁.result with
    | none => runExpr rules call inToken e₂ p o₁.attempts
    | some _ => o₁
  | .optional e, p, a =>
    let o := runExpr rules call inToken e p a
    ⟨o.attempts, some (o.result.getD ([], p))⟩
  | .many e, p, a =>
    let item := runExpr rules call inToken e
    let skip := skipLayout rules inToken
    let o := item p a
    match o.result with
    | none => ⟨o.attempts, some ([], p)⟩
    | some (nodes, q) =>
      let (a', more, q') := runAgain skip item (q.rest.length + 1) q o.attempts
      ⟨a', some (nodes ++ more, q')⟩
  | .unless e, p, a =>
    let o := runExpr rules call inToken e p a
    ⟨o.attempts, if o.result.isSome then none else some ([], p)⟩

def takeBytes : List Char → Nat → List Char
  | [], _ => []
  | c :: cs, n => if n = 0 then [] else c :: takeBytes cs (n - c.utf8Size)

def runRule (rules : Rules ρ) : Nat → Bool → ρ → Matcher ρ
  | 0, _, _, _, a => ⟨a, none⟩
  | depth + 1, inToken, r, p, a =>
    let inside := inToken || rules.style r == .token
    let o := runExpr rules (runRule rules depth inside) inside (rules.body r) p a
    if rules.style r == .silent then o
    else if inToken then ⟨a, o.result.map fun (_, q) => ([], q)⟩
    else
      match o.result with
      | none => ⟨.fail a o.attempts r p.offset, none⟩
      | some (nodes, q) =>
        let node := Node.mk r ⟨p.offset, q.offset⟩ (takeBytes p.rest (q.offset - p.offset)) nodes
        ⟨o.attempts, some ([node], q)⟩

/-- Recognises a text from a rule among `count` rules. Two calls of one rule inside one another
are at least a character apart, which bounds the depth. A failure gives the furthest offset and
the rules tried there. -/
def recognize (rules : Rules ρ) (count : Nat) (start : ρ) (text : List Char) :
    Except (Attempts ρ) (Node ρ) :=
  let o := runRule rules (count * (text.length + 1)) false start ⟨text, 0⟩ .none
  match o.result with
  | some (node :: _, _) => .ok node
  | _ => .error o.attempts

end GrammarWorkbench.Recognizer
