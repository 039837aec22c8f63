import MakeTools.Decimal.Fixed

/-!
# MakeTools.Decimal.Shortest

The shortest decimal text that reads back as the same floating-point number.

A finite number is the nearest one to every real in an interval around it,
whose ends belong to it exactly if its mantissa is even.  On the grid of
decimals with a given last place, the interval holds a point exactly if it
holds one of the two neighbours of the number.  The coarsest grid with such a
point gives the digits, and of two points the nearer one is taken.
-/

namespace MakeTools.Decimal

/-- A positive magnitude and the interval that rounds to it, over the common
denominator `den`: `low ≤ value ≤ high`, or strictly if not `closed`. -/
structure Interval where
  value : Nat
  low : Nat
  high : Nat
  den : Nat
  closed : Bool

/-- The interval of a positive magnitude.  Below a power of two the
neighbouring number is only half as far away. -/
def Interval.of (mantissa : Nat) (exponent : Int) (isPower : Bool) : Interval :=
  let scale := Nat.pow 2 exponent.toNat
  let below := if isPower then 1 else 2
  { value := 4 * mantissa * scale
    low := (4 * mantissa - below) * scale
    high := (4 * mantissa + 2) * scale
    den := 4 * Nat.pow 2 (-exponent).toNat
    closed := mantissa % 2 == 0 }

/-- Does the interval hold the grid point `n * 10 ^ place`? -/
def Interval.holds (i : Interval) (place : Int) (n : Nat) : Bool :=
  let point := n * Nat.pow 10 place.toNat * i.den
  let unit := Nat.pow 10 (-place).toNat
  if i.closed then i.low * unit ≤ point && point ≤ i.high * unit
  else i.low * unit < point && point < i.high * unit

/-- The point of the grid with this last place that reads back, the nearer of
two, the even one of two that are equally near. -/
def Interval.pointAt? (i : Interval) (place : Int) : Option Nat :=
  let num := i.value * Nat.pow 10 (-place).toNat
  let den := i.den * Nat.pow 10 place.toNat
  let below := num / den
  let nearest := roundDiv num den
  let other := if nearest = below then below + 1 else below
  if i.holds place nearest then some nearest
  else if i.holds place other then some other
  else none

/-- The coarsest grid with a point that reads back, going down from a last
place. -/
def Interval.search (i : Interval) : Nat → Int → Nat × Int
  | 0, place => (i.value / i.den, place)
  | fuel + 1, place =>
    match i.pointAt? place with
    | some n => (n, place)
    | none => i.search fuel (place - 1)

/-- The digits of a positive magnitude and the power of ten of the last. -/
def shortestDigits (mantissa : Nat) (exponent : Int) (isPower : Bool) : Nat × Int :=
  (Interval.of mantissa exponent isPower).search 700 310

/-- How floating-point numbers are written: positionally if the exponent of
the first digit lies in a range, otherwise with an exponent of at least two
digits and a sign. -/
structure Style where
  leastPositional : Int
  greatestPositional : Int
  exponentWidth : Nat

/-- Values are written positionally from `0.0001` up to below `10 ^ 16`. -/
def Style.value : Style := ⟨-4, 15, 2⟩

/-- The digits of a positive number with a point in them or zeros around
them, always with at least one digit on each side of the point. -/
def positional (digits : List Char) (exponent : Int) : List Char :=
  if exponent < 0 then '0' :: '.' :: List.replicate (-exponent - 1).toNat '0' ++ digits
  else
    let whole := exponent.toNat + 1
    let padded := digits ++ List.replicate (whole - digits.length) '0'
    let behind := padded.drop whole
    padded.take whole ++ '.' :: (if behind.isEmpty then ['0'] else behind)

/-- The digits of a positive number with a point behind the first, if there
are more, and an exponent. -/
def scientific (style : Style) (digits : List Char) (exponent : Int) : List Char :=
  let power := Nat.toDigits 10 exponent.natAbs
  digits.take 1 ++ (if digits.length ≤ 1 then [] else '.' :: digits.drop 1) ++
    'e' :: (if exponent < 0 then '-' else '+') ::
    List.replicate (style.exponentWidth - power.length) '0' ++ power

/-- The shortest text of a number. -/
def shortest (style : Style) (x : Float) : String :=
  match Binary.ofFloat x with
  | .finite negative mantissa exponent isPower =>
    signText negative ++
      if mantissa = 0 then "0.0"
      else
        let (n, place) := shortestDigits mantissa exponent isPower
        let digits := Nat.toDigits 10 n
        let first := place + digits.length - 1
        String.ofList <|
          if style.leastPositional ≤ first && first ≤ style.greatestPositional then
            positional digits first
          else scientific style digits first
  | .infinite negative => signText negative ++ "inf"
  | .notANumber => "nan"

end MakeTools.Decimal
