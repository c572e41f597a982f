import GrammarWorkbench.Text.Scan

/-!
# Sets of characters as ranges of code points

A property of characters is given by the ranges of code points that have it. Tables are written
as lines of text: ranges divided by one blank, each a hexadecimal number or two of them with a dash
between.

The codes from D800 to DFFF stand for no characters. A range may lead across them, but no range
begins or ends there.
-/

set_option autoImplicit false

namespace GrammarWorkbench.Text

structure CodeRanges where
  ranges : List (Nat × Nat)
  deriving DecidableEq, Repr

namespace CodeRanges

def digitValue (c : Char) : Nat :=
  if '0' ≤ c ∧ c ≤ '9' then c.toNat - 48
  else if 'A' ≤ c ∧ c ≤ 'F' then c.toNat - 55
  else 0

def numberOfHex (digits : List Char) : Nat :=
  digits.foldl (fun n c => 16 * n + digitValue c) 0

def rangeOfHex (written : List Char) : Nat × Nat :=
  match cutAt '-' written with
  | [lo, hi] => (numberOfHex lo, numberOfHex hi)
  | _ => (numberOfHex written, numberOfHex written)

def ofHex (lines : List String) : CodeRanges :=
  ⟨lines.flatMap fun line => (cutAt ' ' line.toList).map rangeOfHex⟩

def contains (r : CodeRanges) (c : Char) : Bool :=
  r.ranges.any fun (lo, hi) => lo ≤ c.toNat && c.toNat ≤ hi

def empty : CodeRanges := ⟨[]⟩

def lastCode : Nat := 0x10FFFF

def all : CodeRanges := ⟨[(0, lastCode)]⟩

def surrogates : CodeRanges := ⟨[(0xD800, 0xDFFF)]⟩

def charFrom (n : Nat) : Char := .ofNat (if 0xD800 ≤ n ∧ n ≤ 0xDFFF then 0xE000 else n)

def charUpTo (n : Nat) : Char :=
  .ofNat (if 0xD800 ≤ n ∧ n ≤ 0xDFFF then 0xD7FF else min n lastCode)

def charRanges (r : CodeRanges) : List (Char × Char) :=
  (r.ranges.filter (·.1 ≤ lastCode)).map fun (a, b) => (charFrom a, charUpTo b)

def joinFrom : Nat × Nat → List (Nat × Nat) → List (Nat × Nat)
  | r, [] => [r]
  | (a, b), (c, d) :: rs =>
    if c ≤ b + 1 then joinFrom (a, max b d) rs else (a, b) :: joinFrom (c, d) rs

def inOrder (r : CodeRanges) : CodeRanges :=
  match r.ranges.mergeSort fun a b => a.1 ≤ b.1 with
  | [] => empty
  | first :: rest => ⟨joinFrom first rest⟩

def union (sets : List CodeRanges) : CodeRanges := inOrder ⟨sets.flatMap ranges⟩

def next (n : Nat) : Nat := if n = 0xD7FF then 0xE000 else n + 1

def previous (n : Nat) : Nat := if n = 0xE000 then 0xD7FF else n - 1

def between (a b : Nat) : Nat × Nat := (min a b, max a b)

/-- What lies behind a code and outside ranges in ascending order. Of two ranges that end and begin
around the surrogates nothing lies between, and the bounds of the gap come out reversed: the range
between them has the last character of the one and the first of the other. -/
def gapsBehind : Nat → List (Nat × Nat) → List (Nat × Nat)
  | n, [] => if n < lastCode then [(next n, lastCode)] else []
  | n, (a, b) :: rs => between (next n) (previous a) :: gapsBehind b rs

def complement (r : CodeRanges) : CodeRanges :=
  match r.inOrder.ranges with
  | [] => all
  | (a, b) :: rs => ⟨(if 0 < a then [(0, previous a)] else []) ++ gapsBehind b rs⟩

end CodeRanges

/-- The characters with one property, under every name the property goes by. Names are written in
lower case without blanks, dashes and underscores. -/
structure PropertyTable where
  names : List String
  members : CodeRanges

def findTable (tables : List PropertyTable) (name : String) : Option CodeRanges :=
  (tables.find? fun t => t.names.contains name).map PropertyTable.members

end GrammarWorkbench.Text
