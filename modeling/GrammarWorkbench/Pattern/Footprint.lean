import GrammarWorkbench.Pattern.Factored
import GrammarWorkbench.Text.ByteRanges
import GrammarWorkbench.Text.Position

/-!
# The size of a pattern

A pattern is run as an automaton over the bytes of a text, and as another one over the bytes from
the last to the first. Here their size is worked out without building them: how many states there
are, and how many edges and links these hold. A state takes 32 bytes, an edge, which names a range
of bytes and a state, 8 more, and a link to another state 4 more.

States that read the same bytes and lead to the same state are shared within a set of characters.
They are found in a table with a fixed number of places. Where two of them have the same place the
later one is kept, so the earlier one is made again when it is needed again.
-/

set_option autoImplicit false

namespace GrammarWorkbench.Pattern

open GrammarWorkbench.Text

inductive Direction where
  | forward
  | backward
  deriving DecidableEq, Repr

structure Footprint where
  states : Nat
  edges : Nat
  links : Nat
  deriving DecidableEq, Repr

namespace Footprint

def zero : Footprint := ⟨0, 0, 0⟩

def bytes (f : Footprint) : Nat := 32 * f.states + 8 * f.edges + 4 * f.links

def add (f : Footprint) (states edges links : Nat) : Footprint :=
  ⟨f.states + states, f.edges + edges, f.links + links⟩

end Footprint

structure Shared (κ : Type) where
  places : Array (Option (κ × Nat))

namespace Shared

variable {κ : Type}

def empty (places : Nat) : Shared κ := ⟨Array.replicate places none⟩

/-- The place of a list of numbers: the numbers are mixed in one after the other, by an exclusive
or and a product modulo 2 to the 64th. -/
def place (t : Shared κ) (words : List Nat) : Nat :=
  let mixed : UInt64 := words.foldl
    (fun h w => (h ^^^ UInt64.ofNat w) * 1099511628211) 14695981039346656037
  mixed.toNat % t.places.size

/-- The state for a key, which the table has or which is made and entered, with its edges counted.
States are numbered in the order in which they are made. -/
def state [DecidableEq κ] (key : κ) (words : List Nat) (edges : Nat) (t : Shared κ)
    (f : Footprint) : Nat × Shared κ × Footprint :=
  let n := t.place words
  let known : Option Nat :=
    match t.places[n]? with
    | some (some (k, state)) => if k = key then some state else none
    | _ => none
  match known with
  | some state => (state, t, f)
  | none => (f.states, ⟨t.places.setIfInBounds n (some (key, f.states))⟩, f.add 1 edges 0)

end Shared

abbrev Edge := ByteRange × Nat

/-- A state that is being made: the edges it has, the last one first, and the bytes of one more
edge, which leads to the state behind it. -/
structure OpenState where
  edges : List Edge
  last : Option ByteRange

namespace OpenState

def closed (s : OpenState) (next : Nat) : List Edge :=
  match s.last with
  | some bytes => (bytes, next) :: s.edges
  | none => s.edges

end OpenState

structure ForwardSet where
  shared : Shared (List Edge)
  footprint : Footprint

namespace ForwardSet

def words (edges : List Edge) : List Nat :=
  edges.reverse.flatMap fun ((lo, hi), next) => [lo.toNat, hi.toNat, next]

/-- Makes open states, each of which leads to the one behind it and the last one to `target`, and
gives the first of them. -/
def close (target : Nat) : List OpenState → ForwardSet → Nat × ForwardSet
  | [], b => (target, b)
  | s :: rest, b =>
    let (next, b) := close target rest b
    let edges := s.closed next
    let (state, shared, footprint) :=
      b.shared.state edges (words edges) edges.length b.footprint
    (state, ⟨shared, footprint⟩)

/-- Adds the bytes of characters behind others. The open states that begin with the same bytes stay
open, and those behind them are made. -/
def insert (target : Nat) : List OpenState → List ByteRange → ForwardSet →
    List OpenState × ForwardSet
  | s :: rest, bytes :: more, b =>
    if s.last = some bytes then
      let (rest, b) := insert target rest more b
      (s :: rest, b)
    else
      let (next, b) := close target rest b
      (⟨s.closed next, some bytes⟩ :: more.map (⟨[], some ·⟩), b)
  | states, _, b => (states, b)

def places : Nat := 10000

end ForwardSet

def Footprint.addForward (f : Footprint) (sequences : List (List ByteRange)) : Footprint :=
  let target := f.states
  let start : List OpenState × ForwardSet :=
    ([⟨[], none⟩], ⟨.empty ForwardSet.places, f.add 1 0 0⟩)
  let (states, b) := sequences.foldl
    (fun (states, b) sequence => ForwardSet.insert target states sequence b) start
  (ForwardSet.close target states b).2.footprint

def backwardPlaces : Nat := 1000

/-- Adds the states that read one sequence of bytes backward. The state that reads the first byte is
the last one, and leads to `target`. -/
def addBackwardSequence (target : Nat) (sequence : List ByteRange)
    (shared : Shared (Nat × ByteRange)) (f : Footprint) :
    Shared (Nat × ByteRange) × Footprint :=
  let (_, shared, f) := sequence.foldl
    (fun (next, shared, f) bytes =>
      shared.state (next, bytes) [next, bytes.1.toNat, bytes.2.toNat] 0 f)
    (target, shared, f)
  (shared, f.add 0 0 1)

/-- Adds the states of a set that is read backward: one that is linked to the last byte of every
sequence, one to which all first bytes lead, and those between. -/
def Footprint.addBackward (f : Footprint) (sequences : List (List ByteRange)) : Footprint :=
  let start : Shared (Nat × ByteRange) × Footprint := (.empty backwardPlaces, f.add 2 0 0)
  (sequences.foldl
    (fun (shared, g) sequence => addBackwardSequence (f.states + 1) sequence shared g) start).2

def Footprint.addSet (f : Footprint) (d : Direction) (codes : CodeRanges) : Footprint :=
  if codes.ranges.all fun (_, hi) => hi ≤ 0x7F then f.add 2 codes.ranges.length 0
  else
    match d with
    | .forward => f.addForward codes.byteRanges
    | .backward => f.addBackward codes.byteRanges

def wordGroups : List (List UInt8) → List (List (List UInt8))
  | [] => [[]]
  | [] :: [] :: ws => wordGroups ([] :: ws)
  | [] :: ws => [] :: groups ws
  | w :: ws => groups (w :: ws)
where
  groups : List (List UInt8) → List (List (List UInt8))
    | [] => [[]]
    | [] :: ws => [] :: groups ws
    | w :: ws =>
      match groups ws with
      | g :: gs => (w :: g) :: gs
      | [] => [[w]]

def tails (words : List (List UInt8)) : List (List (List UInt8)) :=
  (words.filterMap List.head?).eraseDups.map fun b =>
    (words.filter (·.head? = some b)).map List.tail

/-- Adds the states of a choice of words that have a place in a tree: a state for each group of
words, with an edge for each of their first bytes, and one that is linked to these. An empty word
is a link to the end. -/
def Footprint.addWords : (room : Nat) → List (List UInt8) → Footprint → Footprint
  | 0, _, f => f
  | room + 1, words, f =>
    let groups := wordGroups words
    let f := (groups.map tails).foldl
      (fun f children =>
        let f := (children.filter (·.any (!·.isEmpty))).foldl (fun f ws => f.addWords room ws) f
        match children.length with
        | 0 => f
        | 1 => f.add 1 0 1
        | n => f.add 1 n 1) f
    f.add 1 0 (groups.length - 1)

def Footprint.addLiterals (f : Footprint) (d : Direction) (literals : List (List Char)) :
    Footprint :=
  let words := literals.map fun text =>
    let bytes := text.flatMap String.utf8EncodeChar
    if d = .forward then bytes else bytes.reverse
  (f.add 1 0 0).addWords (words.foldl (fun n w => max n w.length) 0) words

/-- The least number of characters a pattern in factored form takes. It is not known if a set is
empty. -/
def leastLength? : Pattern → Option Nat
  | nothing => some 0
  | literal text => some text.length
  | one set => if set.pieces.isEmpty then none else some 1
  | anyChar => some 1
  | seq p q => do return (← leastLength? p) + (← leastLength? q)
  | alt p q => do return min (← leastLength? p) (← leastLength? q)
  | group p => leastLength? p
  | loop .oneOrMore _ p => leastLength? p
  | loop .optional _ p | loop .zeroOrMore _ p => (leastLength? p).map fun _ => 0

def literals? : Pattern → Option (List (List Char))
  | literal text => some [text]
  | alt (literal text) q => (literals? q).map (text :: ·)
  | _ => none

namespace Footprint

/-- Counts a part in its place: 0 if it is not the branch of a choice, and else the number of the
branch. A branch takes a link. The two states of the choice are made behind the second branch. -/
def inPlace (f : Footprint) : (place : Nat) → Footprint
  | 0 => f
  | 2 => f.add 2 0 1
  | _ => f.add 0 0 1

def addPattern (d : Direction) : Pattern → (place : Nat) → Footprint → Footprint
  | nothing, place, f => (f.add 1 0 0).inPlace place
  | literal text, place, f => (f.add (byteLength text) 0 0).inPlace place
  | one set, place, f => (f.addSet d set.ranges).inPlace place
  | anyChar, place, f => (f.addSet d .all).inPlace place
  | seq p q, place, f =>
    match d with
    | .forward => (addPattern d q 0 (addPattern d p 0 f)).inPlace place
    | .backward => (addPattern d p 0 (addPattern d q 0 f)).inPlace place
  | alt p q, 0, f =>
    match literals? (alt p q) with
    | some texts => f.addLiterals d texts
    | none => addPattern d q 2 (addPattern d p 1 f)
  | alt p q, place + 1, f => addPattern d q (place + 2) (addPattern d p (place + 1) f)
  | group p, place, f => addPattern d p place f
  | loop .optional _ p, place, f =>
    ((addPattern d p 0 (f.add 1 0 0)).add 1 0 2).inPlace place
  | loop .oneOrMore _ p, place, f => ((addPattern d p 0 f).add 1 0 2).inPlace place
  | loop .zeroOrMore _ p, place, f =>
    if (leastLength? p).any (0 < ·) then
      ((addPattern d p 0 (f.add 1 0 0)).add 0 0 2).inPlace place
    else ((addPattern d p 0 f).add 3 0 4).inPlace place

/-- The states of an automaton: those that skip what is before a match, those of the pattern, one
for the end of a match, and forward one for each end of it besides. -/
def ofPattern (d : Direction) (p : Pattern) : Footprint :=
  let skipping := zero.add 3 1 2
  match d with
  | .forward => (addPattern d p.factored 0 (skipping.add 1 0 0)).add 2 0 0
  | .backward => (addPattern d p.factored 0 skipping).add 1 0 0

end Footprint

end GrammarWorkbench.Pattern
