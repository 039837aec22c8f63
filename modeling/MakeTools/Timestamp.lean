/-!
# MakeTools.Timestamp

Moments of the calendar: a date from the year 1 to the year 9999 and a time of
day down to microseconds.

A moment is given by its parts, the first three of which are needed.  Every
part has to fit into 32 bits before any is compared with the calendar.
-/

namespace MakeTools

/-- A moment, given by its parts. -/
structure Timestamp where
  year : Int
  month : Int
  day : Int
  hour : Int := 0
  minute : Int := 0
  second : Int := 0
  microsecond : Int := 0
deriving DecidableEq, Repr

namespace Timestamp

/-- What is wrong with a moment: a part has no room in 64 bits or in 32 bits, a
needed part is missing, or a part is out of range. -/
inductive Error where
  | tooWide
  | tooGreat
  | tooSmall
  | missing (part : String) (position : Nat)
  | year (year : Int)
  | month
  | day
  | hour
  | minute
  | second
  | microsecond
deriving DecidableEq, Repr

/-- The wording of an error. -/
def Error.message : Error → String
  | .tooWide => "Python int too large to convert to C long"
  | .tooGreat => "signed integer is greater than maximum"
  | .tooSmall => "signed integer is less than minimum"
  | .missing part position =>
    "function missing required argument '" ++ part ++ "' (pos " ++ toString position ++ ")"
  | .year y => "year " ++ toString y ++ " is out of range"
  | .month => "month must be in 1..12"
  | .day => "day is out of range for month"
  | .hour => "hour must be in 0..23"
  | .minute => "minute must be in 0..59"
  | .second => "second must be in 0..59"
  | .microsecond => "microsecond must be in 0..999999"

/-- Has the year a leap day? -/
def isLeap (year : Int) : Bool := year % 4 == 0 && (year % 100 != 0 || year % 400 == 0)

/-- The days of a month. -/
def daysIn (year month : Int) : Int :=
  if month = 2 then if isLeap year then 29 else 28
  else if month = 4 ∨ month = 6 ∨ month = 9 ∨ month = 11 then 30
  else 31

/-- The first part of a moment that is out of range, from the year down. -/
def check (t : Timestamp) : Except Error Unit :=
  if t.year < 1 ∨ 9999 < t.year then .error (.year t.year)
  else if t.month < 1 ∨ 12 < t.month then .error .month
  else if t.day < 1 ∨ daysIn t.year t.month < t.day then .error .day
  else if t.hour < 0 ∨ 23 < t.hour then .error .hour
  else if t.minute < 0 ∨ 59 < t.minute then .error .minute
  else if t.second < 0 ∨ 59 < t.second then .error .second
  else if t.microsecond < 0 ∨ 999999 < t.microsecond then .error .microsecond
  else .ok ()

/-- What is wrong with a part that does not fit into 32 bits. -/
def widthError? (n : Int) : Option Error :=
  if n < -Int.pow 2 63 ∨ Int.pow 2 63 ≤ n then some .tooWide
  else if n < -Int.pow 2 31 then some .tooSmall
  else if Int.pow 2 31 ≤ n then some .tooGreat
  else none

/-- The moment with these parts, from the year down; a missing time of day is
midnight. -/
def ofParts (parts : List Int) : Except Error Timestamp :=
  match parts.findSome? widthError?, parts with
  | some e, _ => .error e
  | none, [] => .error (.missing "year" 1)
  | none, [_] => .error (.missing "month" 2)
  | none, [_, _] => .error (.missing "day" 3)
  | none, year :: month :: day :: time =>
    let t : Timestamp :=
      { year, month, day
        hour := time.getD 0 0
        minute := time.getD 1 0
        second := time.getD 2 0
        microsecond := time.getD 3 0 }
    t.check.map fun _ => t

/-- A number with zeros in front, so that it has at least `width` digits. -/
def padded (width : Nat) (n : Int) : String :=
  let digits := Nat.toDigits 10 n.toNat
  String.ofList (List.replicate (width - digits.length) '0' ++ digits)

/-- The text of a moment: date, the letter T, time of day.  Microseconds are
written only if there are any. -/
def text (t : Timestamp) : String :=
  padded 4 t.year ++ "-" ++ padded 2 t.month ++ "-" ++ padded 2 t.day ++ "T"
    ++ padded 2 t.hour ++ ":" ++ padded 2 t.minute ++ ":" ++ padded 2 t.second
    ++ if t.microsecond = 0 then "" else "." ++ padded 6 t.microsecond

end Timestamp
end MakeTools
