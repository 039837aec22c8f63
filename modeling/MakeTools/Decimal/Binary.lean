/-!
# MakeTools.Decimal.Binary

Floating-point numbers as what they stand for: a sign and either a natural
number times a power of two, an infinity, or no number at all.
-/

namespace MakeTools.Decimal

/-- The value of a floating-point number.  A finite magnitude is
`mantissa * 2 ^ exponent`; `isPower` marks the mantissas at which the numbers
below lie twice as dense. -/
inductive Binary where
  | finite (negative : Bool) (mantissa : Nat) (exponent : Int) (isPower : Bool)
  | infinite (negative : Bool)
  | notANumber
deriving DecidableEq, Repr

/-- Read the bits of a number of 64 bits: one sign bit, eleven bits of
exponent, fifty-two bits of fraction. -/
def Binary.ofBits (bits : Nat) : Binary :=
  let negative := bits / Nat.pow 2 63 % 2 == 1
  let exponent : Nat := bits / Nat.pow 2 52 % Nat.pow 2 11
  let fraction := bits % Nat.pow 2 52
  if exponent = 2047 then
    if fraction = 0 then .infinite negative else .notANumber
  else if exponent = 0 then .finite negative fraction (-1074) false
  else .finite negative (Nat.pow 2 52 + fraction) ((exponent : Int) - 1075)
    (fraction == 0 && exponent != 1)

/-- The value of a floating-point number. -/
def Binary.ofFloat (x : Float) : Binary := .ofBits x.toBits.toNat

/-- The least whole number that rounds to no finite floating-point number: it
lies halfway between the greatest of them and the next power of two. -/
def tooGreat : Int := (Int.pow 2 54 - 1) * Int.pow 2 970

/-- Is there a finite floating-point number next to this whole number? -/
def isRoundable (n : Int) : Bool := -tooGreat < n && n < tooGreat

end MakeTools.Decimal
