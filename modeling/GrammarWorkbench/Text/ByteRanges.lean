import GrammarWorkbench.Text.CodeRanges

/-!
# Ranges of characters as ranges of bytes

In UTF-8 a character is one to four bytes. A range of characters is cut into ranges whose characters
have the same number of bytes, and in which the bytes at each place run through a range of their
own, whatever the bytes at the other places.
-/

set_option autoImplicit false

namespace GrammarWorkbench.Text

abbrev ByteRange := UInt8 × UInt8

namespace ByteRange

/-- Where to cut a range so that all of its characters have the same bytes before the last `k`
places, with `block` the number of characters that differ in the last `k` places only. The first
part ends where a block ends, and else the last part begins where a block begins. -/
def cutBlocks? (block lo hi : Nat) : Option (Nat × Nat) :=
  if lo / block = hi / block then none
  else if lo % block ≠ 0 then some (lo / block * block + block - 1, lo / block * block + block)
  else if hi % block ≠ block - 1 then some (hi / block * block - 1, hi / block * block)
  else none

def cutBehind? (last lo hi : Nat) : Option (Nat × Nat) :=
  if lo ≤ last ∧ last < hi then some (last, last + 1) else none

def cutSurrogates? (lo hi : Nat) : Option (Nat × Nat) :=
  if lo < 0xE000 ∧ 0xD7FF < hi then some (0xD7FF, 0xE000) else none

/-- Where to cut a range first: the end of its first part and the start of its second part. The
numbers of bytes of a character change behind 7F, 7FF and FFFF. -/
def cut? (lo hi : Nat) : Option (Nat × Nat) :=
  cutSurrogates? lo hi <|> cutBehind? 0x7F lo hi <|> cutBehind? 0x7FF lo hi <|>
    cutBehind? 0xFFFF lo hi <|>
    if hi ≤ 0x7F then none
    else cutBlocks? 64 lo hi <|> cutBlocks? 4096 lo hi <|> cutBlocks? 262144 lo hi

/-- How often a range may be cut, one cut in a part of another: around the surrogates, behind each
of three codes, and at both ends for each of three sizes of blocks. -/
def maxCuts : Nat := 10

def ofCodes : (room : Nat) → (lo hi : Nat) → List (List ByteRange)
  | 0, lo, hi => [places lo hi]
  | room + 1, lo, hi =>
    match cut? lo hi with
    | some (a, b) => ofCodes room lo a ++ ofCodes room b hi
    | none => [places lo hi]
where
  places (lo hi : Nat) : List ByteRange :=
    (String.utf8EncodeChar (Char.ofNat lo)).zip (String.utf8EncodeChar (Char.ofNat hi))

end ByteRange

def CodeRanges.byteRanges (r : CodeRanges) : List (List ByteRange) :=
  r.ranges.flatMap fun (lo, hi) => ByteRange.ofCodes ByteRange.maxCuts lo hi

end GrammarWorkbench.Text
