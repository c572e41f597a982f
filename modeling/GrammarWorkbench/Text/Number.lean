/-!
# Decimal numbers of 64 bits
-/

set_option autoImplicit false

namespace GrammarWorkbench.Text

def decimalDigits? (n : Nat) : List Char → Option Nat
  | [] => some n
  | c :: cs => if c.isDigit then decimalDigits? (10 * n + (c.toNat - 48)) cs else none

/-- A decimal number below 2 ^ 64: at least one digit, with a plus sign before it or without. -/
def decimal64? (text : List Char) : Option Nat :=
  let digits :=
    match text with
    | '+' :: cs => cs
    | cs => cs
  if digits.isEmpty then none
  else (decimalDigits? 0 digits).filter (· < 18446744073709551616)

end GrammarWorkbench.Text
