import GrammarWorkbench.Text.Position

/-!
# Declarations of a grammar

What a grammar document declares, with the span of every part that a defect can point at. Escapes
are already decoded; names are not resolved yet.
-/

set_option autoImplicit false

namespace GrammarWorkbench.Declaration

open GrammarWorkbench.Text

structure Ident where
  name : String
  span : Span
  deriving DecidableEq, Repr, Inhabited

/-- The kinds of grammar. A document without a header is a combined grammar. -/
inductive GrammarKind where
  | combined
  | lexer
  | parser
  deriving DecidableEq, Repr, Inhabited

inductive RepeatKind where
  | optional
  | zeroOrMore
  | oneOrMore
  deriving DecidableEq, Repr, Inhabited

/-- The operator behind an element. One that is not greedy takes as little as it can. -/
structure Suffix where
  kind : RepeatKind
  greedy : Bool
  deriving DecidableEq, Repr, Inhabited

/-- A member of a character set. A single character is a range from itself to itself. -/
inductive ClassItem where
  | range (lo hi : Char)
  | property (name : String) (negated : Bool)
  deriving DecidableEq, Repr

inductive SetItem where
  | literal (text : List Char) (span : Span)
  | range (lo hi : Char)
  | set (items : List ClassItem)
  | ref (ident : Ident)
  deriving DecidableEq, Repr

structure Command where
  name : Ident
  argument : Option Ident
  deriving DecidableEq, Repr, Inhabited

structure AltOf (ε : Type) where
  elements : List ε
  label : Option Ident
  commands : List Command
  rightAssoc : Bool
  span : Span

structure ElementOf (β : Type) where
  atom : β
  suffix : Option Suffix
  span : Span

inductive Atom where
  | ref (ident : Ident)
  | literal (text : List Char)
  | range (lo hi : Char)
  | set (items : List ClassItem)
  | wildcard
  | not (items : List SetItem)
  | group (alternatives : List (AltOf (ElementOf Atom)))

abbrev ElementDecl := ElementOf Atom

abbrev AltDecl := AltOf ElementDecl

/-- A rule. `mode` counts the mode declarations before it, and `fragment` is the span of the
modifier that keeps a lexer rule from making tokens. -/
structure RuleDecl where
  name : Ident
  fragment : Option Span
  mode : Nat
  alternatives : List AltDecl
  span : Span

structure Header where
  kind : GrammarKind
  name : Ident
  deriving DecidableEq, Repr

/-- All declarations of a document. Mode 0 is the default mode, mode `i + 1` is the `i`-th
declared one. -/
structure GrammarDecl where
  header : Option Header
  tokens : List Ident
  channels : List Ident
  imports : List Ident
  modes : List Ident
  rules : List RuleDecl

/-- Names of lexer rules and tokens start with a capital letter. -/
def isTokenName (name : String) : Bool :=
  match name.toList with
  | c :: _ => c.isUpper
  | [] => false

namespace RuleDecl

def isLexerRule (r : RuleDecl) : Bool := isTokenName r.name.name

end RuleDecl

namespace GrammarDecl

def kind (g : GrammarDecl) : GrammarKind :=
  match g.header with
  | some h => h.kind
  | none => .combined

end GrammarDecl

end GrammarWorkbench.Declaration
