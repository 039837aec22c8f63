import MakeTools.Decimal.Shortest
import MakeTools.Text.Integer
import MakeTools.Text.Quoted

/-!
# MakeTools.Value

Argument values as clients send them, and their texts.

A text stands for itself when it is the whole value and is quoted inside a
list or a record.  The other values are written the same way in both places.

Not every value can be written.  Whole numbers may have too many digits, and
lists and records may be nested deeper than there is room for.  Whichever of
the two is met first, from the left, is what writing fails with (`write`).
-/

namespace MakeTools

/-- An argument value. -/
inductive Value where
  | null
  | bool (b : Bool)
  | integer (n : Int)
  | real (x : Float)
  | text (s : String)
  | list (items : List Value)
  | record (fields : List (String × Value))
deriving Inhabited

namespace Value

/-- The names of the two truth values. -/
def boolText (b : Bool) : String := if b then "True" else "False"

mutual

/-- A value as it stands inside another. -/
def inner : Value → String
  | .null => "None"
  | .bool b => boolText b
  | .integer n => toString n
  | .real x => Decimal.shortest .value x
  | .text s => Text.quoted s
  | .list items => "[" ++ ", ".intercalate (innerItems items) ++ "]"
  | .record fields => "\x7b" ++ ", ".intercalate (innerFields fields) ++ "\x7d"

/-- The items of a list, one by one. -/
def innerItems : List Value → List String
  | [] => []
  | v :: vs => inner v :: innerItems vs

/-- The fields of a record, one by one. -/
def innerFields : List (String × Value) → List String
  | [] => []
  | f :: fs => (Text.quoted f.1 ++ ": " ++ inner f.2) :: innerFields fs

end

/-- The text of a value, as far as it can be written. -/
def render : Value → String
  | .text s => s
  | v => inner v

/-! ## Writing -/

/-- Why a value cannot be written. -/
inductive Unwritable where
  | tooManyDigits
  | tooDeep
deriving DecidableEq, Repr

/-- The wording. -/
def Unwritable.message : Unwritable → String
  | .tooManyDigits =>
    "Exceeds the limit (" ++ toString Text.Integer.maxDigits ++ " digits) for integer string "
      ++ "conversion; use sys.set_int_max_str_digits() to increase the limit"
  | .tooDeep => "maximum recursion depth exceeded while getting the repr of an object"

mutual

/-- What stands against writing a value, if there is room for so many lists and
records inside one another. -/
def unwritable? (room : Nat) : Value → Option Unwritable
  | .integer n => if Text.Integer.isWritable n then none else some .tooManyDigits
  | .list items => unwritableItem? room items
  | .record fields => unwritableField? room fields
  | .null | .bool _ | .real _ | .text _ => none

/-- What stands against writing the items of a list.  An empty list takes no
room. -/
def unwritableItem? (room : Nat) : List Value → Option Unwritable
  | [] => none
  | v :: vs =>
    if room = 0 then some .tooDeep
    else (unwritable? (room - 1) v).or (unwritableItem? room vs)

/-- What stands against writing the fields of a record. -/
def unwritableField? (room : Nat) : List (String × Value) → Option Unwritable
  | [] => none
  | f :: fs =>
    if room = 0 then some .tooDeep
    else (unwritable? (room - 1) f.2).or (unwritableField? room fs)

end

/-- Write a value. -/
def write (room : Nat) (v : Value) : Except Unwritable String :=
  match v.unwritable? room with
  | some u => .error u
  | none => .ok v.render

/-- Is the value null or an empty text?  Such an argument counts as not
given. -/
def isAbsent : Value → Bool
  | .null => true
  | .text s => s.isEmpty
  | _ => false

/-- Does the value stand for nothing: null, false, a zero, or something
empty? -/
def isVoid : Value → Bool
  | .null => true
  | .bool b => !b
  | .integer n => n == 0
  | .real x => x == 0
  | .text s => s.isEmpty
  | .list items => items.isEmpty
  | .record fields => fields.isEmpty

/-- The name of a value's kind, as messages give it. -/
def kindName : Value → String
  | .null => "NoneType"
  | .bool _ => "bool"
  | .integer _ => "int"
  | .real _ => "float"
  | .text _ => "str"
  | .list _ => "list"
  | .record _ => "dict"

/-- Is the value a text? -/
def isText : Value → Bool
  | .text _ => true
  | _ => false

/-- A text is its own rendering. -/
@[simp] theorem render_text (s : String) : (text s).render = s := rfl

end Value
end MakeTools
