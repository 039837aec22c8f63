import MakeTools.Text.Quoted

/-!
# MakeTools.CommandLine.Options

Reading command-line arguments against a list of options.

An argument is an option if it starts with a hyphen and is not a lone hyphen,
a negative number, or a text with a space.  A long option may be shortened as
long as one option only starts that way, and may carry its value behind an
equals sign.  The first `--` ends the options; attached to an option it is
dropped, and the option has no value.
-/

namespace MakeTools.CommandLine

/-- How many values an option takes. -/
inductive Arity where
  | zero
  | one
  | several
deriving DecidableEq, Repr

/-- An option: its names, and how many values it takes. -/
structure Flag where
  names : List String
  arity : Arity
deriving DecidableEq, Repr

/-- How messages call an option. -/
def Flag.title (f : Flag) : String := "/".intercalate f.names

/-- The option that asks for help. -/
def Flag.help : Flag := ⟨["-h", "--help"], .zero⟩

/-- An option as it was found: under which name, and with what attached to
it. -/
structure Use where
  flag : Flag
  name : String
  attached : Option String := none
deriving DecidableEq, Repr

/-- What an argument is. -/
inductive Token where
  | operand (text : String)
  | separator
  /-- An option; without a use it is not known. -/
  | option (text : String) (use : Option Use)
deriving DecidableEq, Repr

/-- The argument as it was given. -/
def Token.text : Token → String
  | .operand text => text
  | .separator => "--"
  | .option text _ => text

/-- Is it an operand? -/
def Token.isOperand : Token → Bool
  | .operand _ => true
  | _ => false

/-! ## Telling options from operands -/

/-- Every name with its option, in order. -/
def named (flags : List Flag) : List (String × Flag) :=
  flags.flatMap fun f => f.names.map fun name => (name, f)

/-- The part before the first equals sign and the part behind it. -/
def cutAtEquals (s : List Char) : List Char × Option (List Char) :=
  (s.takeWhile (· != '='), (s.dropWhile (· != '=')).tail?)

/-- The uses that a long option may stand for: every name that starts so. -/
def longUses (flags : List Flag) (s : List Char) : List Use :=
  let (stem, value) := cutAtEquals s
  ((named flags).filter fun n => stem.isPrefixOf n.1.toList).map fun n =>
    ⟨n.2, n.1, value.map String.ofList⟩

/-- The uses that a short option may stand for: the name of its first letter
with the rest attached, and every name that starts with all of it. -/
def shortUses (flags : List Flag) (s : List Char) : List Use :=
  (named flags).filterMap fun n =>
    if n.1.toList = s.take 2 then some ⟨n.2, n.1, some (String.ofList (s.drop 2))⟩
    else if s.isPrefixOf n.1.toList then some ⟨n.2, n.1, none⟩
    else none

/-- The uses that an argument may stand for. -/
def possibleUses (flags : List Flag) (s : List Char) : List Use :=
  if (s.drop 1).head? = some '-' then longUses flags s else shortUses flags s

/-- The use of an option that is written out in full. -/
def exactUse? (flags : List Flag) (s : List Char) : Option Use :=
  match (named flags).lookup (String.ofList s) with
  | some f => some ⟨f, String.ofList s, none⟩
  | none =>
    match cutAtEquals s with
    | (stem, some value) =>
      ((named flags).lookup (String.ofList stem)).map fun f =>
        ⟨f, String.ofList stem, some (String.ofList value)⟩
    | (_, none) => none

/-- A decimal digit of any script, as numbers on a command line may have. -/
def allDigits (isDigit : Char → Bool) (s : List Char) : Bool := !s.isEmpty && s.all isDigit

/-- Does the argument look like a negative number: a hyphen and digits, or a
hyphen, digits or none, a point, and digits?  One final line feed does not
matter. -/
def looksNegative (isDigit : Char → Bool) (s : List Char) : Bool :=
  match if s.getLast? == some '\n' then s.dropLast else s with
  | '-' :: s =>
    allDigits isDigit s ||
      match s.dropWhile isDigit with
      | '.' :: places => allDigits isDigit places
      | _ => false
  | _ => false

/-- The wording for an option that may stand for several. -/
def ambiguous (s : String) (uses : List Use) : String :=
  "ambiguous option: " ++ s ++ " could match " ++ ", ".intercalate (uses.map (·.name))

/-- What one argument is, in front of any separator. -/
def classify (flags : List Flag) (isDigit : Char → Bool) (s : String) : Except String Token :=
  let cs := s.toList
  if cs.head? ≠ some '-' then .ok (.operand s)
  else match exactUse? flags cs with
    | some use => .ok (.option s (some use))
    | none =>
      if cs.length = 1 then .ok (.operand s)
      else match possibleUses flags cs with
        | [use] => .ok (.option s (some use))
        | [] =>
          if looksNegative isDigit cs || cs.contains ' ' then .ok (.operand s)
          else .ok (.option s none)
        | uses => .error (ambiguous s uses)

/-- What the arguments are.  Behind the separator everything is an operand. -/
def tokens (flags : List Flag) (isDigit : Char → Bool) : List String → Except String (List Token)
  | [] => .ok []
  | s :: rest =>
    if s = "--" then .ok (.separator :: rest.map .operand)
    else match classify flags isDigit s with
      | .error e => .error e
      | .ok t => (tokens flags isDigit rest).map (t :: ·)

/-! ## Values -/

/-- The wording of a complaint about an argument. -/
def complaint (title message : String) : String := "argument " ++ title ++ ": " ++ message

/-- The wording for a value that is attached to an option without values. -/
def ignoredValue (value : List Char) : String :=
  "ignored explicit argument " ++ Text.quoted (String.ofList value)

/-- What is attached to an option without values and cannot be read.  Behind a
short name more short options may follow without a hyphen, but only help is
one; nothing may be attached to a long name, and neither may an empty text. -/
def Use.unreadable? (use : Use) : Option (List Char) :=
  use.attached.bind fun value =>
    if use.name.length = 2 ∧ value ≠ "" then
      match value.toList.dropWhile (· == 'h') with
      | [] => none
      | rest => some rest
    else some value.toList

/-- The values that are attached to an option.  A separator there is dropped
like any other, and the option is left without a value. -/
def attachedValues (value : String) : List String := if value = "--" then [] else [value]

/-- The values of an option, the operands that stand behind it at hand; and
how many of these are taken. -/
def Use.values (use : Use) (operands : List String) : Except String (List String × Nat) :=
  match use.flag.arity, use.attached with
  | .zero, _ =>
    match use.unreadable? with
    | none => .ok ([], 0)
    | some rest => .error (complaint use.flag.title (ignoredValue rest))
  | _, some value => .ok (attachedValues value, 0)
  | .one, none =>
    match operands with
    | value :: _ => .ok ([value], 1)
    | [] => .error (complaint use.flag.title "expected one argument")
  | .several, none =>
    if operands.isEmpty then .error (complaint use.flag.title "expected at least one argument")
    else .ok (operands, operands.length)

/-- The operands at the head of a list of arguments. -/
def leadingOperands (ts : List Token) : List String :=
  (ts.takeWhile Token.isOperand).map Token.text

/-- Why reading stops early: help is asked for, or something is wrong. -/
inductive Stop where
  | help (program : String)
  | usage (program message : String)
deriving DecidableEq, Repr

/-! ## Reading a command's arguments -/

/-- What was read of a command's arguments: its settings, the operand if there
is one, and what is left over. -/
structure Reading (α : Type) where
  settings : α
  operand : Option String := none
  extras : List String := []

/-- Read the arguments of a command that takes at most one operand.  `set`
applies an option with its values to the settings.  The first operand is the
command's own, unless it is taken by an option, and a separator next to it is
dropped; what comes later is left over. -/
def read {α : Type} (set : Flag → List String → α → Except Stop α) (stop : String → Stop)
    (taken : Bool) (r : Reading α) : List Token → Except Stop (Reading α)
  | [] => .ok r
  | .option text none :: ts => read set stop taken { r with extras := r.extras ++ [text] } ts
  | .option _ (some use) :: ts =>
    match use.values (leadingOperands ts) with
    | .error message => .error (stop message)
    | .ok (values, n) =>
      match set use.flag values r.settings with
      | .error e => .error e
      | .ok settings => read set stop taken { r with settings } (ts.drop n)
  | .operand text :: ts =>
    if taken then read set stop true { r with extras := r.extras ++ [text] } ts
    else
      match ts with
      | .separator :: ts => read set stop true { r with operand := some text } ts
      | ts => read set stop true { r with operand := some text } ts
  | .separator :: ts =>
    if taken then read set stop true { r with extras := r.extras ++ ["--"] } ts
    else
      match ts with
      | t :: ts => read set stop true { r with operand := some t.text } ts
      | [] => .ok r
termination_by ts => ts.length
decreasing_by all_goals simp only [List.length_cons, List.length_drop]; omega

end MakeTools.CommandLine
