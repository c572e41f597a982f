import GrammarWorkbench.Pattern.Basic

/-!
# The longest match of a pattern

A pattern is read one character at a time. What is left of it behind a character is again a
pattern, or one of several. The longest match is found by following all of them at once, so it
does not matter in which order a pattern lists its branches.
-/

set_option autoImplicit false

namespace GrammarWorkbench.Pattern

def matchesEmpty : Pattern → Bool
  | nothing => true
  | literal text => text.isEmpty
  | one _ => false
  | anyChar => false
  | seq p q => matchesEmpty p && matchesEmpty q
  | alt p q => matchesEmpty p || matchesEmpty q
  | group p => matchesEmpty p
  | loop .optional _ _ => true
  | loop .zeroOrMore _ _ => true
  | loop .oneOrMore _ p => matchesEmpty p

def rests (c : Char) : Pattern → List Pattern
  | nothing => []
  | literal [] => []
  | literal (d :: ds) => if c = d then [literal ds] else []
  | one set => if set.contains c then [nothing] else []
  | anyChar => [nothing]
  | seq p q => (rests c p).map (seq · q) ++ if matchesEmpty p then rests c q else []
  | alt p q => rests c p ++ rests c q
  | group p => rests c p
  | loop .optional _ p => rests c p
  | loop .zeroOrMore greedy p => (rests c p).map (seq · (loop .zeroOrMore greedy p))
  | loop .oneOrMore greedy p => (rests c p).map (seq · (loop .zeroOrMore greedy p))

def allRests (c : Char) (ps : List Pattern) : List Pattern := (ps.flatMap (rests c)).eraseDups

def longest : List Pattern → List Char → Option Nat
  | ps, [] => if ps.any matchesEmpty then some 0 else none
  | ps, c :: cs =>
    if ps.isEmpty then none
    else
      match longest (allRests c ps) cs with
      | some n => some (n + 1)
      | none => if ps.any matchesEmpty then some 0 else none

end GrammarWorkbench.Pattern
