import MakeTools.Decimal.Binary

/-!
# MakeTools.Decimal.Fixed

Numbers with a fixed count of decimal places.  The exact value is rounded to
the nearest such number, and a half goes to the even neighbour.
-/

namespace MakeTools.Decimal

/-- A quotient rounded to the nearest natural number, a half to the even
neighbour. -/
def roundDiv (num den : Nat) : Nat :=
  let q := num / den
  let r := num % den
  if 2 * r < den || (2 * r == den && q % 2 == 0) then q else q + 1

/-- A magnitude in units of the last of `places` decimal places. -/
def inUnits (places mantissa : Nat) (exponent : Int) : Nat :=
  match exponent with
  | .ofNat e => mantissa * Nat.pow 2 e * Nat.pow 10 places
  | .negSucc e => roundDiv (mantissa * Nat.pow 10 places) (Nat.pow 2 (e + 1))

/-- A count of units of the last place, written with a point. -/
def placed (places units : Nat) : String :=
  let digits := Nat.toDigits 10 units
  let digits := List.replicate (places + 1 - digits.length) '0' ++ digits
  let whole := digits.length - places
  String.ofList (digits.take whole ++ '.' :: digits.drop whole)

/-- The mark of a negative number, negative zero included. -/
def signText (negative : Bool) : String := if negative then "-" else ""

/-- A number with a fixed count of decimal places, at least one. -/
def fixed (places : Nat) (x : Float) : String :=
  match Binary.ofFloat x with
  | .finite negative mantissa exponent _ =>
    signText negative ++ placed places (inUnits places mantissa exponent)
  | .infinite negative => signText negative ++ "inf"
  | .notANumber => "nan"

end MakeTools.Decimal
