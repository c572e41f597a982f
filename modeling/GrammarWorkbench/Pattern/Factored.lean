import GrammarWorkbench.Pattern.Basic

/-!
# Patterns in factored form

Preference among matches is decided on a form of the pattern in which spelling no longer counts.
Groups are gone and nested sequences and choices are one, neighbouring literals are joined, a
choice of single characters is a set, a set is written by its ranges in order, and a set of one
character is a literal. A repetition of what takes nothing has one round at most. Parts with which
all branches of a choice begin stand once before the choice.
-/

set_option autoImplicit false

namespace GrammarWorkbench.Pattern

open GrammarWorkbench.Text GrammarWorkbench.Declaration

def CharSet.ofCodes (codes : CodeRanges) : CharSet :=
  ⟨false, codes.charRanges.map fun (lo, hi) => .span lo hi⟩

def ofCodes (codes : CodeRanges) : Pattern :=
  match codes.charRanges with
  | [(lo, hi)] => if lo = hi then literal [lo] else one (.ofCodes codes)
  | _ => one (.ofCodes codes)

def parts : Pattern → List Pattern
  | nothing => []
  | seq p q => p :: parts q
  | p => [p]

def ofParts : List Pattern → Pattern
  | [] => nothing
  | [p] => p
  | p :: ps => seq p (ofParts ps)

def prependPart : Pattern → List Pattern → List Pattern
  | literal s, literal t :: ps => literal (s ++ t) :: ps
  | p, ps => p :: ps

def inSequence (ps qs : List Pattern) : List Pattern := ps.foldr prependPart qs

/-- The branches of a choice. Each is given by its parts. -/
def branches : Pattern → List (List Pattern)
  | alt p q => parts p :: branches q
  | p => [parts p]

def flatBranches (ps : List Pattern) : List (List Pattern) :=
  match ps with
  | [alt p q] => branches (alt p q)
  | ps => [ps]

def charOf? : List Pattern → Option CodeRanges
  | [literal [c]] => some ⟨[(c.toNat, c.toNat)]⟩
  | _ => none

def setOf? : List Pattern → Option CodeRanges
  | [one s] => some s.codes
  | _ => none

def unionOf? (bs : List (List Pattern)) : Option CodeRanges :=
  ((bs.mapM charOf?).or (bs.mapM setOf?)).map CodeRanges.union

theorem mapM_eq_some_iff {α β : Type} {f : α → Option β} {as : List α} {bs : List β} :
    as.mapM f = some bs ↔ as.map f = bs.map some := by
  induction as generalizing bs with
  | nil => cases bs <;> simp
  | cons a as ih =>
    cases bs with
    | nil => simp [List.mapM_cons, Option.bind_eq_some_iff]
    | cons b bs => simp [List.mapM_cons, Option.bind_eq_some_iff, ih]

def commonParts : List Pattern → List Pattern → List Pattern
  | p :: ps, q :: qs => if p = q then p :: commonParts ps qs else []
  | _, _ => []

/-- The parts with which all branches begin. There are none if one has less than two parts. -/
def sharedParts : List (List Pattern) → List Pattern
  | [] => []
  | ps :: pss =>
    if (ps :: pss).all fun qs => 2 ≤ qs.length then pss.foldl commonParts ps else []

/-- The choice of branches. Parts that all branches share are put before it, again and again up to
`room` times. -/
def factor : (room : Nat) → List (List Pattern) → List Pattern
  | room, bs =>
    let flat := bs.flatMap flatBranches
    match unionOf? flat, room with
    | some codes, _ => [ofCodes codes]
    | none, 0 => [choice (flat.map ofParts)]
    | none, room + 1 =>
      match sharedParts flat with
      | [] => [choice (flat.map ofParts)]
      | shared => inSequence shared (factor room (flat.map (·.drop shared.length)))

def size : Pattern → Nat
  | seq p q | alt p q => size p + size q + 1
  | group p | loop _ _ p => size p + 1
  | _ => 1

def choose : List (List Pattern) → List Pattern
  | [ps] => ps
  | bs => factor (bs.flatten.foldl (fun n p => n + size p) 0) bs

def takesNothing : Pattern → Bool
  | nothing => true
  | literal text => text.isEmpty
  | one _ => false
  | anyChar => false
  | seq p q | alt p q => takesNothing p && takesNothing q
  | group p | loop _ _ p => takesNothing p

/-- The repetition of a sequence. Of rounds that take nothing there is one at most. -/
def repeated (kind : RepeatKind) (greedy : Bool) (body : List Pattern) : List Pattern :=
  if body.all takesNothing then
    match kind with
    | .oneOrMore => body
    | .optional | .zeroOrMore => [loop .optional greedy (ofParts body)]
  else [loop kind greedy (ofParts body)]

def factoredBranches : Pattern → List (List Pattern)
  | nothing => [[]]
  | literal text => [if text.isEmpty then [] else [literal text]]
  | one s => [[ofCodes s.codes]]
  | anyChar => [[ofCodes .all]]
  | seq p q => [inSequence (choose (factoredBranches p)) (choose (factoredBranches q))]
  | alt p q => choose (factoredBranches p) :: factoredBranches q
  | group p => [choose (factoredBranches p)]
  | loop kind greedy p => [repeated kind greedy (choose (factoredBranches p))]

def factored (p : Pattern) : Pattern := ofParts (choose (factoredBranches p))

end GrammarWorkbench.Pattern
