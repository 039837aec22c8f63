import MakeTools.Makefile.Line
import MakeTools.Path
import MakeTools.Shell.Words

/-!
# MakeTools.Command

The command line that runs a target, and what is refused before one is built.

A command runs `make` on a Makefile with one target as its goal, then one
word per variable, then the words of the raw arguments.  Names of targets and
variables are checked against a pattern, values and raw arguments against a
list of characters that mean something to a shell.
-/

namespace MakeTools.Command

open Line

/-! ## Names and characters -/

/-- Does a text match a pattern that is anchored at both ends?  The end anchor
also holds in front of one final line feed. -/
def anchored (p : List Char → Bool) (s : List Char) : Bool :=
  p s || (s.getLast? == some '\n' && p s.dropLast)

/-- Names of targets: a letter or an underscore, then letters, digits,
underscores and hyphens. -/
def isTargetName : List Char → Bool
  | [] => false
  | c :: s => isNameStart c && s.all isNameChar

/-- Names of variables: a letter or an underscore, then letters, digits and
underscores. -/
def isVariableName : List Char → Bool
  | [] => false
  | c :: s => isNameStart c && s.all isWordChar

/-- The characters that could break out of an argument into a shell. -/
def blockedChars : List Char :=
  [';', '&', '|', '\x60', '<', '>', '(', ')', '\x7b', '\x7d', '[', ']', '\\']

/-- Could the character break out of an argument into a shell? -/
def isBlocked (c : Char) : Bool := blockedChars.contains c

/-- Does the text hold a character that could break out of an argument? -/
def isDangerous (s : String) : Bool := s.toList.any isBlocked

/-! ## What is refused -/

/-- Why no command is built. -/
inductive Rejection where
  | invalidTarget (name : String)
  | invalidVariable (name : String)
  | dangerousValue (name : String)
  | dangerousArguments
  | openQuotation
deriving DecidableEq, Repr

/-- The wording of a rejection. -/
def Rejection.message : Rejection → String
  | .invalidTarget name => "Invalid target name: " ++ name
  | .invalidVariable name => "Invalid variable name: " ++ name
  | .dangerousValue name =>
    "Variable " ++ name ++ " contains potentially dangerous characters"
  | .dangerousArguments =>
    "Arguments contain potentially dangerous characters. Blocked characters: "
      ++ " ".intercalate (blockedChars.map fun c => String.ofList [c])
  | .openQuotation => "No closing quotation"

/-- Check the name of a target. -/
def checkTarget (name : String) : Except Rejection Unit :=
  if anchored isTargetName name.toList then .ok () else .error (.invalidTarget name)

/-- Check the name and the value of one variable, the name first. -/
def checkVariable (name value : String) : Except Rejection Unit :=
  if !anchored isVariableName name.toList then .error (.invalidVariable name)
  else if isDangerous value then .error (.dangerousValue name)
  else .ok ()

/-- Check variables in order. -/
def checkVariables : List (String × String) → Except Rejection Unit
  | [] => .ok ()
  | (name, value) :: rest =>
    match checkVariable name value with
    | .ok () => checkVariables rest
    | .error r => .error r

/-- All variables pass exactly if each of them does. -/
theorem checkVariables_eq_ok_iff {vs : List (String × String)} :
    checkVariables vs = .ok () ↔ ∀ v ∈ vs, checkVariable v.1 v.2 = .ok () := by
  induction vs with
  | nil => simp [checkVariables]
  | cons v vs ih =>
    cases h : checkVariable v.1 v.2 with
    | error r => simp [checkVariables, h]
    | ok _ => simp [checkVariables, h, ih]

/-- Check raw arguments. -/
def checkRawArgs (rawArgs : String) : Except Rejection Unit :=
  if isDangerous rawArgs then .error .dangerousArguments else .ok ()

/-! ## Building -/

/-- The words of raw arguments. -/
def rawWords (rawArgs : String) : Except Rejection (List String) :=
  match Shell.words rawArgs with
  | some words => .ok words
  | none => .error .openQuotation

/-- The word that sets a variable. -/
def assignmentWord (v : String × String) : String := v.1 ++ "=" ++ v.2

/-- The command that runs a target.  Everything is checked before the raw
arguments are split. -/
def build (target : String) (makefile : Path) (settings : List (String × String))
    (rawArgs : String) : Except Rejection (List String) :=
  match checkTarget target, checkVariables settings, checkRawArgs rawArgs with
  | .error r, _, _ => .error r
  | .ok (), .error r, _ => .error r
  | .ok (), .ok (), .error r => .error r
  | .ok (), .ok (), .ok () =>
    match rawWords rawArgs with
    | .error r => .error r
    | .ok words =>
      .ok (["make", "-f", toString makefile, target] ++ settings.map assignmentWord ++ words)

/-- A command is built exactly if everything passes and the raw arguments can
be split, and then it has this shape. -/
theorem build_eq_ok_iff {target : String} {makefile : Path} {settings : List (String × String)}
    {rawArgs : String} {command : List String} :
    build target makefile settings rawArgs = .ok command ↔
      checkTarget target = .ok () ∧ checkVariables settings = .ok () ∧
      checkRawArgs rawArgs = .ok () ∧
      ∃ words, rawWords rawArgs = .ok words ∧
        command = ["make", "-f", toString makefile, target] ++ settings.map assignmentWord
          ++ words := by
  unfold build
  cases checkTarget target <;> cases checkVariables settings <;> cases checkRawArgs rawArgs <;>
    cases rawWords rawArgs <;> simp [eq_comm]

/-- The words of a command on one line. -/
def line (command : List String) : String := " ".intercalate command

end MakeTools.Command
