import MakeTools.Text.Blank

/-!
# MakeTools.Text.Integer

Whole numbers as people write them: blanks around, an optional sign, and
decimal digits of any script, with single underscores between digits allowed.
The four information separators do not count as blanks here.  A number of more
than 4300 digits is neither read nor written.
-/

namespace MakeTools.Text.Integer

open Text

/-- The code points of the decimal zeros; the nine digits above follow each
(Unicode 14). -/
def zeros : List Nat := [
  0x30, 0x660, 0x6f0, 0x7c0, 0x966, 0x9e6, 0xa66, 0xae6, 0xb66, 0xbe6, 0xc66, 0xce6, 0xd66,
  0xde6, 0xe50, 0xed0, 0xf20, 0x1040, 0x1090, 0x17e0, 0x1810, 0x1946, 0x19d0, 0x1a80, 0x1a90,
  0x1b50, 0x1bb0, 0x1c40, 0x1c50, 0xa620, 0xa8d0, 0xa900, 0xa9d0, 0xa9f0, 0xaa50, 0xabf0,
  0xff10, 0x104a0, 0x10d30, 0x11066, 0x110f0, 0x11136, 0x111d0, 0x112f0, 0x11450, 0x114d0,
  0x11650, 0x116c0, 0x11730, 0x118e0, 0x11950, 0x11c50, 0x11d50, 0x11da0, 0x16a60, 0x16ac0,
  0x16b50, 0x1d7ce, 0x1d7d8, 0x1d7e2, 0x1d7ec, 0x1d7f6, 0x1e140, 0x1e2f0, 0x1e950, 0x1fbf0]

/-- The value of a decimal digit. -/
def digit? (c : Char) : Option Nat :=
  (zeros.find? fun z => z ≤ c.toNat && c.toNat ≤ z + 9).map (c.toNat - ·)

/-- May the character stand around a number? -/
def isPadding (c : Char) : Bool := isBlank c && !(28 ≤ c.toNat && c.toNat ≤ 31)

/-- Drop what may stand around a number. -/
def strip (s : List Char) : List Char :=
  ((s.dropWhile isPadding).reverse.dropWhile isPadding).reverse

/-- The digits of a number, at least one, with single underscores between
them. -/
def digits? : List Char → Option (List Nat)
  | [] => none
  | [c] => (digit? c).map ([·])
  | c :: '_' :: s => (digit? c).bind fun d => (digits? s).map (d :: ·)
  | c :: s => (digit? c).bind fun d => (digits? s).map (d :: ·)

/-- The number that decimal digits write. -/
def value (digits : List Nat) : Nat := digits.foldl (fun n d => 10 * n + d) 0

/-- The greatest number of digits that is read or written. -/
def maxDigits : Nat := 4300

/-- Can the number be written?  Its sign does not count as a digit. -/
def isWritable (n : Int) : Bool := n.natAbs < Nat.pow 10 maxDigits

/-- Read a number without a sign. -/
def magnitude? (s : List Char) : Option Nat :=
  (digits? s).bind fun ds => if ds.length ≤ maxDigits then some (value ds) else none

/-- Read a number. -/
def read? (s : List Char) : Option Int :=
  match strip s with
  | '-' :: s => (magnitude? s).map fun (n : Nat) => -(n : Int)
  | '+' :: s => (magnitude? s).map fun (n : Nat) => (n : Int)
  | s => (magnitude? s).map fun (n : Nat) => (n : Int)

end MakeTools.Text.Integer
