import MakeTools.Value

/-!
# MakeTools.Value.Same

When two values count as the same.

Numbers of every kind, truth values among them, are compared by what they
stand for, and exactly; lists item by item; records by their fields in any
order.  Values of other different kinds are never the same.
-/

namespace MakeTools.Value

/-! ## Numbers -/

/-- The whole number that a value is, a truth value being zero or one. -/
def whole? : Value → Option Int
  | .bool b => some (if b then 1 else 0)
  | .integer n => some n
  | _ => none

/-- Is the floating-point number this whole number? -/
def isWhole (n : Int) (x : Float) : Bool :=
  match Decimal.Binary.ofFloat x with
  | .finite negative mantissa exponent _ =>
    let signed : Int := if negative then -mantissa else mantissa
    match exponent with
    | .ofNat e => n == signed * Int.pow 2 e
    | .negSucc e => n * Int.pow 2 (e + 1) == signed
  | _ => false

/-- Are two numbers the same?  What is no number is the same as nothing. -/
def sameNumber (v w : Value) : Bool :=
  match v, v.whole?, w, w.whole? with
  | _, some m, _, some n => m == n
  | _, some m, .real y, _ => isWhole m y
  | .real x, _, _, some n => isWhole n x
  | .real x, _, .real y, _ => x == y
  | _, _, _, _ => false

/-! ## All values -/

mutual

/-- Are two values the same? -/
def same : Value → Value → Bool
  | .null, w => match w with
    | .null => true
    | _ => false
  | .text s, w => match w with
    | .text t => s == t
    | _ => false
  | .list vs, w => match w with
    | .list ws => sameItems vs ws
    | _ => false
  | .record fs, w => match w with
    | .record gs => fs.length == gs.length && sameFields fs gs
    | _ => false
  | v, w => sameNumber v w

/-- Are two lists the same, item by item? -/
def sameItems : List Value → List Value → Bool
  | [], ws => ws.isEmpty
  | _ :: _, [] => false
  | v :: vs, w :: ws => same v w && sameItems vs ws

/-- Does every field have the same value among the other fields? -/
def sameFields : List (String × Value) → List (String × Value) → Bool
  | [], _ => true
  | f :: fs, gs =>
    (match gs.lookup f.1 with
      | some w => same f.2 w
      | none => false) && sameFields fs gs

end

end MakeTools.Value
