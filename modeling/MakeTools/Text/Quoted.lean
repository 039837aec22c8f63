import MakeTools.Text.Hex
import MakeTools.Text.Printable

/-!
# MakeTools.Text.Quoted

Quoted texts, as messages and rendered values show them.

A text stands between single quotes, or between double quotes if it holds a
single quote and no double quote.  The quote itself and the backslash are
escaped, tab, line feed and carriage return have their letters, and every
other character that is not printable is written by its code point in the
shortest of three widths.
-/

namespace MakeTools.Text

/-- The quote that a text is put between. -/
def quoteFor (s : List Char) : Char :=
  if s.contains '\'' && !s.contains '"' then '"' else '\''

/-- A code point as an escape sequence. -/
def escapeCode (n : Nat) : List Char :=
  if n ≤ 0xff then '\\' :: 'x' :: hexDigits 2 n
  else if n ≤ 0xffff then '\\' :: 'u' :: hexDigits 4 n
  else '\\' :: 'U' :: hexDigits 8 n

/-- A character between quotes of this kind. -/
def escape (quote : Char) (c : Char) : List Char :=
  if c = quote || c = '\\' then ['\\', c]
  else if c = '\t' then ['\\', 't']
  else if c = '\n' then ['\\', 'n']
  else if c = '\r' then ['\\', 'r']
  else if isPrintable c then [c]
  else escapeCode c.toNat

/-- A text between quotes. -/
def quoted (s : String) : String :=
  let quote := quoteFor s.toList
  String.ofList (quote :: s.toList.flatMap (escape quote) ++ [quote])

end MakeTools.Text
