/-!
# MakeTools.Shell.Words

Splitting a text into words as a POSIX shell does, without any expansion.

Words are separated by spaces, tabs and line ends.  Between quotes of either
kind every character stands for itself; quoted and unquoted stretches that
touch make one word, and a word may be empty if it is quoted.  A number sign
is an ordinary character, and so is a backslash: callers refuse texts with a
backslash before they split them.
-/

namespace MakeTools.Shell

/-- The characters that separate words. -/
def isSeparator (c : Char) : Bool := c == ' ' || c == '\t' || c == '\r' || c == '\n'

/-- The two quotes. -/
def isQuote (c : Char) : Bool := c == '\'' || c == '"'

/-- Where a reader of words stands: between words, in a word, or between
quotes.  What was read of the current word comes along. -/
inductive State where
  | between
  | word (soFar : List Char)
  | quote (mark : Char) (soFar : List Char)
deriving DecidableEq, Repr

/-- Read on from a state.  The answer is `none` if the text ends between
quotes. -/
def wordsFrom : State → List Char → Option (List (List Char))
  | .between, [] => some []
  | .word soFar, [] => some [soFar]
  | .quote _ _, [] => none
  | .between, c :: s =>
    if isSeparator c then wordsFrom .between s
    else if isQuote c then wordsFrom (.quote c []) s
    else wordsFrom (.word [c]) s
  | .word soFar, c :: s =>
    if isSeparator c then (wordsFrom .between s).map (soFar :: ·)
    else if isQuote c then wordsFrom (.quote c soFar) s
    else wordsFrom (.word (soFar ++ [c])) s
  | .quote mark soFar, c :: s =>
    if c = mark then wordsFrom (.word soFar) s
    else wordsFrom (.quote mark (soFar ++ [c])) s

/-- The words of a text, or `none` if a quote is not closed. -/
def words (s : String) : Option (List String) :=
  (wordsFrom .between s.toList).map (·.map String.ofList)

/-! ## Writing words -/

/-- A word between single quotes.  Each single quote in it is put between
double quotes. -/
def quoteWord (w : List Char) : List Char :=
  '\'' :: w.flatMap (fun c => if c = '\'' then "'\"'\"'".toList else [c]) ++ ['\'']

/-- Words as one text that splits into them. -/
def quoteWords (ws : List (List Char)) : List Char := [' '].intercalate (ws.map quoteWord)

end MakeTools.Shell
