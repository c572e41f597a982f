import GrammarWorkbench.Declaration.Basic
import GrammarWorkbench.Text.Property

/-!
# Patterns of characters

A lexer rule is a pattern: sets of characters put together by sequence, choice and repetition. A
pattern has a written form, in which sequences and choices are grouped by `(?:` and `)`, and in
which every character that is no letter or digit is written by its code.
-/

set_option autoImplicit false

namespace GrammarWorkbench.Pattern

open GrammarWorkbench.Text GrammarWorkbench.Declaration

inductive Piece where
  | single (c : Char)
  | span (lo hi : Char)
  | property (name : String) (negated : Bool)
  deriving DecidableEq, Repr

namespace Piece

def codes : Piece → CodeRanges
  | single c => ⟨[(c.toNat, c.toNat)]⟩
  | span lo hi => ⟨[(lo.toNat, hi.toNat)]⟩
  | property name negated => (Property.find? name negated).getD .empty

def contains (p : Piece) (c : Char) : Bool := p.codes.contains c

def isKnown : Piece → Bool
  | property name _ => (Property.reference? name).isSome
  | _ => true

def renderChar (c : Char) : String :=
  if isAlphanumeric c || c == '_' then c.toString
  else "\\x\x7b" ++ (String.ofList (Nat.toDigits 16 c.toNat)).toUpper ++ "\x7d"

def render : Piece → String
  | single c => renderChar c
  | span lo hi => renderChar lo ++ "-" ++ renderChar hi
  | property name negated => (if negated then "\\P" else "\\p") ++ "\x7b" ++ name ++ "\x7d"

end Piece

/-- A set of characters: those in one of the pieces, or those in the gaps between them. -/
structure CharSet where
  negated : Bool
  pieces : List Piece
  deriving DecidableEq, Repr

namespace CharSet

def single (c : Char) : CharSet := ⟨false, [.single c]⟩

def all : CharSet := ⟨true, []⟩

def ranges (s : CharSet) : CodeRanges := ⟨s.pieces.flatMap fun p => p.codes.ranges⟩

def codes (s : CharSet) : CodeRanges :=
  if s.negated then s.ranges.complement else s.ranges.inOrder

def contains (s : CharSet) (c : Char) : Bool :=
  if s.negated then s.codes.contains c else s.pieces.any (·.contains c)

def render (s : CharSet) : String :=
  (if s.negated then "[^" else "[") ++ String.join (s.pieces.map Piece.render) ++ "]"

end CharSet

end GrammarWorkbench.Pattern

namespace GrammarWorkbench

open GrammarWorkbench.Pattern GrammarWorkbench.Declaration

inductive Pattern where
  | nothing
  | literal (text : List Char)
  | one (set : CharSet)
  | anyChar
  | seq (p q : Pattern)
  | alt (p q : Pattern)
  | group (p : Pattern)
  | loop (kind : RepeatKind) (greedy : Bool) (body : Pattern)
  deriving DecidableEq, Repr

namespace Pattern

def sequence : List Pattern → Pattern
  | [] => nothing
  | p :: ps => seq p (sequence ps)

def choice : List Pattern → Pattern
  | [] => nothing
  | [p] => p
  | p :: ps => alt p (choice ps)

def isMeta (c : Char) : Bool :=
  "\\.+*?()|[]\x7b\x7d^$#&-~".toList.contains c

def renderLiteral (text : List Char) : String :=
  String.ofList (text.flatMap fun c => if isMeta c then ['\\', c] else [c])

def renderOperator (kind : RepeatKind) (greedy : Bool) : String :=
  let sign :=
    match kind with
    | .optional => "?"
    | .zeroOrMore => "*"
    | .oneOrMore => "+"
  if greedy then sign else sign ++ "?"

def renderChoice : List String → String
  | [s] => s
  | branches => "(?:" ++ "|".intercalate branches ++ ")"

def renderBranches : Pattern → List String
  | nothing => [""]
  | literal text => [renderLiteral text]
  | one set => [set.render]
  | anyChar => ["(?s:.)"]
  | seq p q => [renderChoice (renderBranches p) ++ renderChoice (renderBranches q)]
  | alt p q => renderChoice (renderBranches p) :: renderBranches q
  | group p => ["(?:" ++ renderChoice (renderBranches p) ++ ")"]
  | loop kind greedy p =>
    ["(?:" ++ renderChoice (renderBranches p) ++ ")" ++ renderOperator kind greedy]

def render (p : Pattern) : String := renderChoice (renderBranches p)

def isLazy : Pattern → Bool
  | seq p q | alt p q => isLazy p || isLazy q
  | group p => isLazy p
  | loop _ greedy body => !greedy || isLazy body
  | _ => false

def isKnown : Pattern → Bool
  | one set => set.pieces.all Piece.isKnown
  | seq p q | alt p q => isKnown p && isKnown q
  | group p | loop _ _ p => isKnown p
  | _ => true

end Pattern

end GrammarWorkbench
