/-!
# JSON text

The JSON values a result is written as, and their text over several lines: two blanks for each
level, and empty lists and objects on one line.
-/

set_option autoImplicit false

namespace GrammarWorkbench.Render

inductive Json where
  | null
  | number (n : Int)
  | string (s : String)
  | list (items : List Json)
  | object (fields : List (String × Json))

namespace Json

def fourDigits (c : Char) : List Char :=
  let digits := Nat.toDigits 16 c.toNat
  List.replicate (4 - digits.length) '0' ++ digits

def escapeChar (c : Char) : List Char :=
  match c with
  | '"' => ['\\', '"']
  | '\\' => ['\\', '\\']
  | '\n' => ['\\', 'n']
  | '\r' => ['\\', 'r']
  | '\t' => ['\\', 't']
  | '\x08' => ['\\', 'b']
  | '\x0c' => ['\\', 'f']
  | c => if c.toNat < 32 then ['\\', 'u'] ++ fourDigits c else [c]

def quote (s : String) : String :=
  String.ofList ('"' :: s.toList.flatMap escapeChar ++ ['"'])

def indent (level : Nat) : String := String.ofList (List.replicate (2 * level) ' ')

mutual

def pretty (level : Nat) : Json → String
  | null => "null"
  | number n => toString n
  | string s => quote s
  | list [] => "[]"
  | list (j :: js) =>
    "[\n" ++ indent (level + 1) ++ pretty (level + 1) j ++ prettyItems (level + 1) js ++ "\n" ++
      indent level ++ "]"
  | object [] => "\x7b\x7d"
  | object ((k, j) :: fs) =>
    "\x7b\n" ++ indent (level + 1) ++ quote k ++ ": " ++ pretty (level + 1) j ++
      prettyFields (level + 1) fs ++ "\n" ++ indent level ++ "\x7d"

def prettyItems (level : Nat) : List Json → String
  | [] => ""
  | j :: js => ",\n" ++ indent level ++ pretty level j ++ prettyItems level js

def prettyFields (level : Nat) : List (String × Json) → String
  | [] => ""
  | (k, j) :: fs =>
    ",\n" ++ indent level ++ quote k ++ ": " ++ pretty level j ++ prettyFields level fs

end

def render (j : Json) : String := pretty 0 j

end Json

end GrammarWorkbench.Render
