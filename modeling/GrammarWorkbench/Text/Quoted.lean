import GrammarWorkbench.Text.Property

/-!
# Text on one line

Two ways to show a text inside a message. `visible` only makes line breaks and tabs readable.
`quoted` is the form a literal is named by: quotes and the backslash are escaped as well, and
characters that do not show as themselves are written by their code.
-/

set_option autoImplicit false

namespace GrammarWorkbench.Text

def visibleChar : Char → List Char
  | '\n' => ['\\', 'n']
  | '\r' => ['\\', 'r']
  | '\t' => ['\\', 't']
  | c => [c]

def visible (text : List Char) : List Char := text.flatMap visibleChar

def codeEscape (c : Char) : List Char :=
  ['\\', 'u', '\x7b'] ++ Nat.toDigits 16 c.toNat ++ ['\x7d']

/-- One character of a quoted text. At the start of the text a character that would join the one
before it is written by its code. -/
def quotedChar (atStart : Bool) : Char → List Char
  | '\x00' => ['\\', '0']
  | '\t' => ['\\', 't']
  | '\r' => ['\\', 'r']
  | '\n' => ['\\', 'n']
  | '\'' => ['\\', '\'']
  | '"' => ['\\', '"']
  | '\\' => ['\\', '\\']
  | c =>
    if atStart && extendsCluster c then codeEscape c
    else if isPrintable c then [c]
    else codeEscape c

def quoted : List Char → List Char
  | [] => []
  | c :: cs => quotedChar true c ++ cs.flatMap (quotedChar false)

end GrammarWorkbench.Text
