/-!
# MakeTools.Text.Hex

Numbers in hexadecimal, in lower case and with a fixed count of digits.
-/

namespace MakeTools.Text

/-- The last hexadecimal digit of a number. -/
def hexDigit (n : Nat) : Char := Nat.digitChar (n % 16)

/-- The last `width` hexadecimal digits of a number. -/
def hexDigits : Nat → Nat → List Char
  | 0, _ => []
  | width + 1, n => hexDigits width (n / 16) ++ [hexDigit n]

end MakeTools.Text
