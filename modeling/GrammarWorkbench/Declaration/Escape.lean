import GrammarWorkbench.Declaration.Basic

/-!
# Escapes in literals and character sets

The inside of `'...'` and of `[...]` is decoded from the left. Each step says how many characters
behind the current one it used, and the walk over the text leaves these out.
-/

set_option autoImplicit false

namespace GrammarWorkbench.Declaration

open GrammarWorkbench.Text

inductive Fault where
  | danglingBackslash
  | unknownEscape (c : Char)
  | propertyBrace (c : Char)
  | emptyProperty (c : Char)
  | bracedDigits
  | fourDigits
  | notCharacter (digits : List Char)
  | propertyBound
  | reversedRange (lo hi : Char)
  | emptySet
  | emptyLiteral
  deriving DecidableEq, Repr

def Fault.message : Fault → String
  | danglingBackslash => "dangling backslash"
  | unknownEscape c => s!"invalid escape sequence \\{c}"
  | propertyBrace c => s!"expected '\x7b' after \\{c}"
  | emptyProperty c => s!"empty property in \\{c}" ++ "\x7b\x7d"
  | bracedDigits => "\\u\x7b...\x7d needs 1 to 6 hex digits"
  | fourDigits => "\\u needs 4 hex digits"
  | notCharacter ds => "\\u" ++ String.ofList ds ++ " is not a valid character"
  | propertyBound => "a property cannot bound a range"
  | reversedRange lo hi => s!"range {lo}-{hi} is reversed"
  | emptySet => "set is empty"
  | emptyLiteral => "string literals must not be empty"

def hexDigit? (c : Char) : Option Nat :=
  if '0' ≤ c ∧ c ≤ '9' then some (c.toNat - 48)
  else if 'a' ≤ c ∧ c ≤ 'f' then some (c.toNat - 87)
  else if 'A' ≤ c ∧ c ≤ 'F' then some (c.toNat - 55)
  else none

def hexDigits? (n : Nat) : List Char → Option Nat
  | [] => some n
  | c :: cs => (hexDigit? c).bind fun d => hexDigits? (16 * n + d) cs

def hexNumber? : List Char → Option Nat
  | [] => none
  | ['+'] => none
  | '+' :: cs => hexDigits? 0 cs
  | cs => hexDigits? 0 cs

def charOfNumber? (n : Nat) : Option Char :=
  if h : n.isValidChar then some (Char.ofNatAux n h) else none

def charOfDigits (digits : List Char) : Except Fault Char :=
  match (hexNumber? digits).bind charOfNumber? with
  | some c => .ok c
  | none => .error (.notCharacter digits)

def untilBrace (cs : List Char) : List Char × Nat :=
  let inner := cs.takeWhile (· != '\x7d')
  (inner, min (inner.length + 1) cs.length)

def decodeCode : List Char → Except Fault (Char × Nat)
  | '\x7b' :: cs =>
    let (digits, used) := untilBrace cs
    if digits.isEmpty ∨ 6 < byteLength digits then .error .bracedDigits
    else (charOfDigits digits).map fun c => (c, used + 1)
  | cs =>
    let digits := cs.take 4
    if byteLength digits ≠ 4 then .error .fourDigits
    else (charOfDigits digits).map fun c => (c, digits.length)

def shortEscape? : Char → Option Char
  | 'n' => some '\n'
  | 'r' => some '\r'
  | 't' => some '\t'
  | 'b' => some '\x08'
  | 'f' => some '\x0c'
  | '\\' => some '\\'
  | '\'' => some '\''
  | '"' => some '"'
  | _ => none

/-- The character an escape stands for, with the number of characters used behind the
backslash. -/
def decodeEscape : List Char → Except Fault (Char × Nat)
  | [] => .error .danglingBackslash
  | c :: cs =>
    match shortEscape? c with
    | some d => .ok (d, 1)
    | none =>
      if c = 'u' then (decodeCode cs).map fun (d, used) => (d, used + 1)
      else .error (.unknownEscape c)

def decodeChars : Nat → List Char → Except Fault (List Char)
  | _, [] => .ok []
  | skip + 1, _ :: cs => decodeChars skip cs
  | 0, c :: cs =>
    if c = '\\' then do
      let (d, used) ← decodeEscape cs
      return d :: (← decodeChars used cs)
    else do
      return c :: (← decodeChars 0 cs)

def decodeLiteral (inner : List Char) : Except Fault (List Char) :=
  if inner.isEmpty then .error .emptyLiteral else decodeChars 0 inner

inductive ClassAtom where
  | char (c : Char)
  | property (name : String) (negated : Bool)
  deriving DecidableEq, Repr

def isSetEscape (c : Char) : Bool := c == ']' || c == '-' || c == '[' || c == '^'

def decodeProperty (c : Char) : List Char → Except Fault (ClassAtom × Nat)
  | '\x7b' :: cs =>
    let (name, used) := untilBrace cs
    if name.isEmpty then .error (.emptyProperty c)
    else .ok (.property (String.ofList name) (c == 'P'), used + 1)
  | _ => .error (.propertyBrace c)

def decodeSetEscape : List Char → Except Fault (ClassAtom × Nat)
  | [] => .error .danglingBackslash
  | c :: cs =>
    if isSetEscape c then .ok (.char c, 1)
    else if c = 'p' ∨ c = 'P' then
      (decodeProperty c cs).map fun (a, used) => (a, used + 1)
    else (decodeEscape (c :: cs)).map fun (d, used) => (.char d, used)

def decodeClassAtom (c : Char) (cs : List Char) : Except Fault (ClassAtom × Nat) :=
  if c = '\\' then decodeSetEscape cs else .ok (.char c, 0)

/-- The member of a set that starts at character `c`, with the number of characters used behind
it. A dash between two characters makes a range; one at the end of the set is a character. -/
def decodeClassItem (c : Char) (cs : List Char) : Except Fault (ClassItem × Nat) := do
  match ← decodeClassAtom c cs with
  | (.property name negated, used) => return (.property name negated, used)
  | (.char lo, used) =>
    match cs.drop used with
    | '-' :: next :: rest =>
      match ← decodeClassAtom next rest with
      | (.property .., _) => throw .propertyBound
      | (.char hi, used') =>
        if hi < lo then throw (.reversedRange lo hi)
        else return (.range lo hi, used + 2 + used')
    | _ => return (.range lo lo, used)

def decodeClassItems : Nat → List Char → Except Fault (List ClassItem)
  | _, [] => .ok []
  | skip + 1, _ :: cs => decodeClassItems skip cs
  | 0, c :: cs => do
    let (item, used) ← decodeClassItem c cs
    return item :: (← decodeClassItems used cs)

def decodeClass (inner : List Char) : Except Fault (List ClassItem) := do
  let items ← decodeClassItems 0 inner
  if items.isEmpty then throw .emptySet else return items

end GrammarWorkbench.Declaration
