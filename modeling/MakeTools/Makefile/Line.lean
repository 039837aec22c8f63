import MakeTools.Text.Blank
import MakeTools.Text.Lines
import MakeTools.Text.Prefix

/-!
# MakeTools.Makefile.Line

What one line of a Makefile says.  Nothing is evaluated: a line is an
assignment, a declaration of a target, a list of phony names, a conditional, a
comment, or none of these, by its characters alone.

Assignments are read from the line as it stands; everything else is read from
the trimmed line.  A line that holds an equals sign declares no target, which
leaves out target-specific variables.
-/

namespace MakeTools.Line

open Text

/-! ## Characters of names -/

/-- Characters of a variable's name: ASCII letters, digits and underscores. -/
def isWordChar (c : Char) : Bool := c.isAlphanum || c == '_'

/-- Characters that open a target's name: ASCII letters and underscores. -/
def isNameStart (c : Char) : Bool := c.isAlpha || c == '_'

/-- Characters of a target's name: those of a variable's name and hyphens. -/
def isNameChar (c : Char) : Bool := isWordChar c || c == '-'

theorem isNameChar_of_isNameStart {c : Char} (h : isNameStart c) : isNameChar c := by
  simp only [isNameStart, isNameChar, isWordChar, Char.isAlphanum, Bool.or_eq_true] at h ⊢
  rcases h with h | h
  · exact .inl (.inl (.inl h))
  · exact .inl (.inr h)

/-! ## Assignments -/

/-- What follows the assignment sign at the head of a text. -/
def afterAssign? : List Char → Option (List Char)
  | '?' :: '=' :: s => some s
  | ':' :: '=' :: s => some s
  | '=' :: s => some s
  | _ => none

/-- The name that a line assigns, and the trimmed value: a name at the very
start, blanks, an assignment sign. -/
def assignment? (line : Line) : Option (String × String) :=
  let name := line.takeWhile isWordChar
  if name.isEmpty then none
  else (afterAssign? (trimLeft (line.dropWhile isWordChar))).map fun value =>
    (String.ofList name, String.ofList (trim value))

/-- Does the line assign this name?  The name has to stand at the very start
of the line; what follows the assignment sign does not matter. -/
def assigns (name : String) (line : Line) : Bool :=
  match name.toList.isPrefixOf? line with
  | some rest => (afterAssign? (trimLeft rest)).isSome
  | none => false

/-! ## Declarations -/

/-- The name in front of a colon, and what follows the colon. -/
def heading? (s : List Char) : Option (List Char × List Char) :=
  match trimLeft (s.dropWhile isNameChar) with
  | ':' :: rest =>
    if (s.head?.any isNameStart) then some (s.takeWhile isNameChar, rest) else none
  | _ => none

/-- The target that a line declares, with its dependencies. -/
def declaration? (line : Line) : Option (String × List String) :=
  let s := trim line
  if s.contains '=' then none
  else (heading? s).map fun (name, rest) => (String.ofList name, fields rest)

/-- Does the line open the recipe of this target?  The name has to stand at
the very start of the line; what follows the colon does not matter. -/
def opens (name : String) (line : Line) : Bool :=
  match name.toList.isPrefixOf? line with
  | some rest => (trimLeft rest).head? == some ':'
  | none => false

/-! ## Phony names and conditionals -/

/-- The names that a line makes phony. -/
def phonyNames (line : Line) : List String :=
  match ".PHONY:".toList.isPrefixOf? (trim line) with
  | some rest => fields rest
  | none => []

/-- The words that open a conditional line.  Any text may follow them. -/
def conditionalWords : List String := ["ifdef", "ifndef", "ifeq", "ifneq", "else", "endif"]

/-- Does the line open with a conditional word? -/
def isConditional (line : Line) : Bool :=
  conditionalWords.any fun word => word.toList.isPrefixOf (trim line)

/-! ## Comments and usage hints -/

/-- Does the line hold a comment and nothing else? -/
def isComment (line : Line) : Bool := (trim line).head? == some '#'

/-- The text of a line that holds a comment and nothing else. -/
def comment? (line : Line) : Option String :=
  match trim line with
  | '#' :: text => some (String.ofList (trim text))
  | _ => none

/-- The words that announce a usage hint, in either case. -/
def hintWords : List String := ["usage", "args", "arguments", "example"]

/-- Letter case does not matter in a hint word, and the long s counts as s. -/
def foldCase (c : Char) : Char := if c == 'ſ' then 's' else c.toLower

/-- What follows a word and a colon at the head of a text, whatever the case. -/
def afterWord? : List Char → List Char → Option (List Char)
  | [], ':' :: s => some s
  | w :: word, c :: s => if foldCase c == w then afterWord? word s else none
  | _, _ => none

/-- The hint that a number sign at the head of a text introduces: blanks, a
hint word, a colon, and a text that is not empty. -/
def hintHere? : List Char → Option String
  | '#' :: s =>
    match hintWords.findSome? fun word => afterWord? word.toList (trimLeft s) with
    | some (c :: rest) => some (String.ofList (trim (c :: rest)))
    | _ => none
  | _ => none

/-- The first hint in a text. -/
def hintIn? : List Char → Option String
  | [] => none
  | c :: s => (hintHere? (c :: s)).or (hintIn? s)

/-- The usage hint on a line. -/
def hint? (line : Line) : Option String := hintIn? (trim line)

end MakeTools.Line
