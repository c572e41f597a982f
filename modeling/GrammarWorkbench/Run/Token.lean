import GrammarWorkbench.Model.Vocabulary
import GrammarWorkbench.Text.Position
import GrammarWorkbench.Text.Quoted

/-!
# Tokens
-/

set_option autoImplicit false

namespace GrammarWorkbench.Run

open GrammarWorkbench.Text GrammarWorkbench.Model

structure Token where
  typeName : String
  type : Nat
  text : List Char
  span : Span
  position : Position
  channel : Nat
  deriving DecidableEq, Repr

namespace Token

def atEnd (input : List Char) : Token where
  typeName := "EOF"
  type := endType
  text := []
  span := .empty (byteLength input)
  position := endPosition input
  channel := 0

def isEnd (t : Token) : Bool := t.type == endType

def display (t : Token) : String :=
  if t.isEnd then "'<EOF>'" else "'" ++ String.ofList (visible t.text) ++ "'"

end Token

end GrammarWorkbench.Run
