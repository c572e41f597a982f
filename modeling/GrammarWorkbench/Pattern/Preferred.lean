import GrammarWorkbench.Pattern.Factored
import GrammarWorkbench.Pattern.Longest

/-!
# The preferred match of a pattern

A pattern with a repetition that takes as little as it can does not match as much as possible, but
by preference: earlier branches before later ones, another round of a greedy repetition before its
end, the end of a lazy one before another round.

The pattern becomes an automaton whose forks list their ways in order of preference. At every place
of the text the states that can be reached are listed in the order in which a search meets them,
and a state is met once only: a way that leads back to a state on the list is not followed. So a
round of a repetition that takes nothing does not count as a round.
-/

set_option autoImplicit false

namespace GrammarWorkbench.Pattern

inductive State where
  | accept
  | take (set : CharSet) (next : Nat)
  | fork (ways : List Nat)
  deriving DecidableEq, Repr

structure Automaton where
  states : Array State

namespace Automaton

def accepting : Automaton := ⟨#[.accept]⟩

def add (a : Automaton) (s : State) : Nat × Automaton := (a.states.size, ⟨a.states.push s⟩)

def set (a : Automaton) (n : Nat) (s : State) : Automaton := ⟨a.states.setIfInBounds n s⟩

def addLiteral (a : Automaton) (next : Nat) : List Char → Nat × Automaton
  | [] => (next, a)
  | c :: cs =>
    let (n, a) := a.addLiteral next cs
    a.add (.take (.single c) n)

def ways (greedy : Bool) (round finish : Nat) : List Nat :=
  if greedy then [round, finish] else [finish, round]

/-- Adds the states of a pattern that leads to `next`, and gives the first of them. Behind a round
of a repetition a fork leads to the next round or on. A repetition of rounds that always take
something begins at that fork. -/
def addPattern (a : Automaton) (next : Nat) : Pattern → Nat × Automaton
  | nothing => (next, a)
  | literal text => a.addLiteral next text
  | one set => a.add (.take set next)
  | anyChar => a.add (.take .all next)
  | seq p q =>
    let (middle, a) := a.addPattern next q
    a.addPattern middle p
  | alt p q =>
    let (first, a) := a.addPattern next p
    let (second, a) := a.addPattern next q
    a.add (.fork [first, second])
  | group p => a.addPattern next p
  | loop .optional greedy p =>
    let (round, a) := a.addPattern next p
    a.add (.fork (ways greedy round next))
  | loop .oneOrMore greedy p =>
    let (again, a) := a.add (.fork [])
    let (round, a) := a.addPattern again p
    (round, a.set again (.fork (ways greedy round next)))
  | loop .zeroOrMore greedy p =>
    let (again, a) := a.add (.fork [])
    let (round, a) := a.addPattern again p
    let a := a.set again (.fork (ways greedy round next))
    if matchesEmpty p then a.add (.fork (ways greedy round next)) else (again, a)

def isAccept (a : Automaton) (n : Nat) : Bool := a.states[n]? == some .accept

/-- Follows the forks from a state and adds the states met to a list. Every state on the way to
another is met before it, so no way is longer than the number of states. -/
def visit (a : Automaton) : (room : Nat) → List Nat → Nat → List Nat
  | 0, met, _ => met
  | room + 1, met, n =>
    if met.contains n then met
    else
      match a.states[n]? with
      | some (.fork ways) => ways.foldl (a.visit room) (met ++ [n])
      | _ => met ++ [n]

def reach (a : Automaton) (met : List Nat) (n : Nat) : List Nat :=
  a.visit (a.states.size + 1) met n

def step (a : Automaton) (c : Char) (met : List Nat) (n : Nat) : List Nat :=
  match a.states[n]? with
  | some (.take set next) => if set.contains c then a.reach met next else met
  | _ => met

def advance (a : Automaton) (c : Char) (live : List Nat) : List Nat := live.foldl (a.step c) []

/-- The number of characters of the preferred match from the states on a list. Those behind one
that ends a match are less preferred than that match. -/
def run (a : Automaton) : List Nat → List Char → Option Nat
  | live, [] => if live.any a.isAccept then some 0 else none
  | live, c :: cs =>
    if live.isEmpty then none
    else
      match a.run (a.advance c (live.takeWhile (!a.isAccept ·))) cs with
      | some n => some (n + 1)
      | none => if live.any a.isAccept then some 0 else none

end Automaton

def preferred (p : Pattern) (text : List Char) : Option Nat :=
  let (start, a) := Automaton.accepting.addPattern 0 p.factored
  a.run (a.reach [] start) text

end GrammarWorkbench.Pattern
