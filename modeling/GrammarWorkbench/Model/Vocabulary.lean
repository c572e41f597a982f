import GrammarWorkbench.Model.TokenSet

/-!
# Token types and what matches them

Token types are numbers; type 0 is the end of the input. The vocabulary gives each its display
name. A token that a parser rule writes as a literal is named by the literal in quotes.
-/

set_option autoImplicit false

namespace GrammarWorkbench.Model

def endType : Nat := 0

structure Vocabulary where
  names : List String
  deriving DecidableEq, Repr

namespace Vocabulary

def initial : Vocabulary := ⟨["EOF"]⟩

def size (v : Vocabulary) : Nat := v.names.length

def add (v : Vocabulary) (name : String) : Vocabulary := ⟨v.names ++ [name]⟩

def typeOf? (v : Vocabulary) (name : String) : Option Nat := v.names.idxOf? name

def ensure (v : Vocabulary) (name : String) : Vocabulary :=
  if (v.typeOf? name).isSome then v else v.add name

def displayName (v : Vocabulary) (type : Nat) : String := v.names[type]?.getD "<invalid>"

def allTokens (v : Vocabulary) : TokenSet :=
  .ofList ((List.range v.size).filter (· != endType))

def describe (v : Vocabulary) (expected : TokenSet) : String :=
  match expected.toList with
  | [] => "nothing"
  | [t] => v.displayName t
  | ts => "\x7b" ++ ", ".intercalate (ts.map v.displayName) ++ "\x7d"

end Vocabulary

inductive TokenMatch where
  | type (t : Nat)
  | any
  | notIn (excluded : TokenSet)
  deriving DecidableEq

namespace TokenMatch

/-- Whether a token type is accepted. The end of the input is accepted by name only. -/
def accepts : TokenMatch → Nat → Bool
  | type t, u => t == u
  | any, u => u != endType
  | notIn excluded, u => u != endType && !excluded.contains u

def first (v : Vocabulary) : TokenMatch → TokenSet
  | type t => .single t
  | any => v.allTokens
  | notIn excluded => v.allTokens.filter fun t => !excluded.contains t

end TokenMatch

end GrammarWorkbench.Model
