import MakeTools.Text.Hex

/-!
# MakeTools.Text.Utf8

UTF-8: writing a text as bytes, and reading bytes in two ways.

Bytes are cut into pieces, each a character or an ill-formed piece.  An
ill-formed piece is as long as it can be a beginning of some character, and at
least one byte.  Reading strictly stops at the first ill-formed piece; reading
leniently puts the replacement character in the place of each.
-/

namespace MakeTools.Text.Utf8

/-! ## Writing -/

/-- The bytes of a character. -/
def encodeChar (c : Char) : List UInt8 :=
  let n := c.toNat
  if n < 0x80 then [.ofNat n]
  else if n < 0x800 then [.ofNat (0xC0 + n / 64), .ofNat (0x80 + n % 64)]
  else if n < 0x10000 then
    [.ofNat (0xE0 + n / 4096), .ofNat (0x80 + n / 64 % 64), .ofNat (0x80 + n % 64)]
  else
    [.ofNat (0xF0 + n / 262144), .ofNat (0x80 + n / 4096 % 64), .ofNat (0x80 + n / 64 % 64),
      .ofNat (0x80 + n % 64)]

/-- The bytes of a text. -/
def encode (s : List Char) : List UInt8 := s.flatMap encodeChar

/-! ## Pieces -/

/-- What is wrong with an ill-formed piece. -/
inductive Flaw where
  | invalidStart
  | invalidContinuation
  | unexpectedEnd
deriving DecidableEq, Repr

/-- What a lead byte says: the bits it gives, how many bytes follow, and the
least and the greatest second byte. -/
structure Lead where
  bits : Nat
  more : Nat
  low : Nat := 0x80
  high : Nat := 0xBF
deriving DecidableEq, Repr

/-- Read a lead byte. -/
def lead? (b : Nat) : Option Lead :=
  if b < 0x80 then some ⟨b, 0, 0x80, 0xBF⟩
  else if b < 0xC2 then none
  else if b < 0xE0 then some ⟨b - 0xC0, 1, 0x80, 0xBF⟩
  else if b < 0xF0 then
    some ⟨b - 0xE0, 2, if b = 0xE0 then 0xA0 else 0x80, if b = 0xED then 0x9F else 0xBF⟩
  else if b < 0xF5 then
    some ⟨b - 0xF0, 3, if b = 0xF0 then 0x90 else 0x80, if b = 0xF4 then 0x8F else 0xBF⟩
  else none

/-- A stretch of bytes and what it holds. -/
structure Piece where
  bytes : List UInt8
  content : Except Flaw Char

/-- Read the bytes that a lead byte asks for, of which the next lies between
`low` and `high`.  The answer is what the piece holds and how many of the
bytes belong to it. -/
def continuation (bits more low high : Nat) (s : List UInt8) : Except Flaw Char × Nat :=
  match more, s with
  | 0, _ => (.ok (Char.ofNat bits), 0)
  | _ + 1, [] => (.error .unexpectedEnd, 0)
  | more + 1, b :: s =>
    if low ≤ b.toNat && b.toNat ≤ high then
      let (content, n) := continuation (bits * 64 + (b.toNat - 0x80)) more 0x80 0xBF s
      (content, n + 1)
    else (.error .invalidContinuation, 0)

/-- What the piece that opens with this byte holds, and how many of the
following bytes belong to it. -/
def opening (b : UInt8) (s : List UInt8) : Except Flaw Char × Nat :=
  match lead? b.toNat with
  | some l => continuation l.bits l.more l.low l.high s
  | none => (.error .invalidStart, 0)

/-- Cut bytes into pieces. -/
def pieces : List UInt8 → List Piece
  | [] => []
  | b :: s =>
    let (content, n) := opening b s
    ⟨b :: s.take n, content⟩ :: pieces (s.drop n)
termination_by s => s.length
decreasing_by simp only [List.length_cons, List.length_drop]; omega

/-! ## Reading strictly -/

/-- An ill-formed piece and the position of its first byte. -/
structure Error where
  position : Nat
  bytes : List UInt8
  flaw : Flaw
deriving DecidableEq, Repr

/-- The wording of a flaw. -/
def Flaw.message : Flaw → String
  | .invalidStart => "invalid start byte"
  | .invalidContinuation => "invalid continuation byte"
  | .unexpectedEnd => "unexpected end of data"

/-- The wording of an error: one byte is shown, several are given by their
positions. -/
def Error.message (e : Error) : String :=
  let place := match e.bytes with
    | [b] => "byte 0x" ++ String.ofList (hexDigits 2 b.toNat) ++ " in position "
        ++ toString e.position
    | bytes => "bytes in position " ++ toString e.position ++ "-"
        ++ toString (e.position + bytes.length - 1)
  "'utf-8' codec can't decode " ++ place ++ ": " ++ e.flaw.message

/-- Read pieces, the first of which starts at a position. -/
def decodeFrom (position : Nat) : List Piece → Except Error (List Char)
  | [] => .ok []
  | p :: ps =>
    match p.content with
    | .ok c => (decodeFrom (position + p.bytes.length) ps).map (c :: ·)
    | .error flaw => .error ⟨position, p.bytes, flaw⟩

/-- Read bytes; the first ill-formed piece is an error. -/
def decode (s : List UInt8) : Except Error (List Char) := decodeFrom 0 (pieces s)

/-! ## Reading leniently -/

/-- What stands for an ill-formed piece. -/
def replacement : Char := '\uFFFD'

/-- Read bytes; each ill-formed piece is replaced. -/
def decodeLossy (s : List UInt8) : List Char :=
  (pieces s).map fun p => match p.content with
    | .ok c => c
    | .error _ => replacement

end MakeTools.Text.Utf8
