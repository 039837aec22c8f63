import MakeTools.CommandLine.Options
import MakeTools.Path
import MakeTools.Text.Integer
import MakeTools.Tool

/-!
# MakeTools.CommandLine.Call

The commands of the command line and what their arguments set.

A first argument that is neither an option nor a command is taken for the
Makefile of `serve`.  Every command takes one Makefile and options on either
side of it; nothing may be left over.
-/

namespace MakeTools.CommandLine

/-! ## Commands -/

/-- The commands. -/
inductive Verb where
  | preview
  | list
  | serve
deriving DecidableEq, Repr

/-- The name of a command. -/
def Verb.name : Verb → String
  | .preview => "preview"
  | .list => "list"
  | .serve => "serve"

/-- All commands. -/
def Verb.all : List Verb := [.preview, .list, .serve]

/-- The command of this name. -/
def Verb.ofName? (name : String) : Option Verb := Verb.all.find? (·.name == name)

/-- What the arguments of a command set. -/
structure Settings where
  toolPrefix : String := Tool.defaultPrefix
  logLevel : String := "INFO"
  allowed : List String := []
  timeout : Option Int := none
  maxChars : Int := 0
  /-- The options that take one value and were given without it. -/
  blank : List Flag := []
deriving DecidableEq, Repr

/-- The option for the beginning of tool names. -/
def Flag.toolPrefix : Flag := ⟨["--prefix"], .one⟩

/-- The option for the log level. -/
def Flag.logLevel : Flag := ⟨["--log-level"], .one⟩

/-- The option for the allowlist. -/
def Flag.allowed : Flag := ⟨["--allowed-targets"], .several⟩

/-- The option for the time limit. -/
def Flag.timeout : Flag := ⟨["--timeout"], .one⟩

/-- The option for the length of reported output. -/
def Flag.maxChars : Flag := ⟨["--max-output-chars"], .one⟩

/-- The options of a command. -/
def Verb.flags : Verb → List Flag
  | .preview | .list => [.help, .toolPrefix]
  | .serve => [.help, .toolPrefix, .logLevel, .allowed, .timeout, .maxChars]

/-- The log levels that the option takes. -/
def levelChoices : List String := ["DEBUG", "INFO", "WARNING", "ERROR"]

/-- The wording for a value that is none of the choices. -/
def invalidChoice (value : String) (choices : List String) : String :=
  "invalid choice: " ++ Text.quoted value ++ " (choose from "
    ++ ", ".intercalate (choices.map Text.quoted) ++ ")"

/-- Read the number that an option asks for. -/
def readNumber (f : Flag) (value : String) : Except String Int :=
  match Text.Integer.read? value.toList with
  | some n => .ok n
  | none => .error (complaint f.title ("invalid int value: " ++ Text.quoted value))

/-- Apply an option that takes one value, with its value. -/
def Settings.setOne (program : String) (f : Flag) (value : String) (s : Settings) :
    Except Stop Settings :=
  if f = .toolPrefix then .ok { s with toolPrefix := value }
  else if f = .logLevel then
    if levelChoices.contains value then .ok { s with logLevel := value }
    else .error (.usage program (complaint f.title (invalidChoice value levelChoices)))
  else match readNumber f value with
    | .error message => .error (.usage program message)
    | .ok n =>
      if f = .timeout then .ok { s with timeout := some n } else .ok { s with maxChars := n }

/-- Apply an option with its values.  Of an option that is given more than
once the last counts, also if it is given without its value. -/
def Settings.set (program : String) (f : Flag) (values : List String) (s : Settings) :
    Except Stop Settings :=
  if f = .help then .error (.help program)
  else if f = .allowed then .ok { s with allowed := values }
  else match values with
    | [] => .ok { s with blank := f :: s.blank.erase f }
    | value :: _ => Settings.setOne program f value { s with blank := s.blank.erase f }

/-- How a missing value is written. -/
def blankText : String := "[]"

/-- The beginning of tool names, as it is printed. -/
def Settings.prefixText (s : Settings) : String :=
  if s.blank.contains .toolPrefix then blankText else s.toolPrefix

/-- A command with its arguments. -/
structure Call where
  verb : Verb
  makefile : Path
  settings : Settings
deriving DecidableEq, Repr

/-- The Makefile, if nothing else is said. -/
def defaultMakefile : String := "Makefile"

/-- Is the character a decimal digit? -/
def isDigit (c : Char) : Bool := (Text.Integer.digit? c).isSome

/-! ## Reading -/

/-- Read the arguments of a command.  What is left over comes along. -/
def Verb.read (program : String) (verb : Verb) (arguments : List String) :
    Except Stop (Call × List String) :=
  let program := program ++ " " ++ verb.name
  match tokens verb.flags isDigit arguments with
  | .error message => .error (.usage program message)
  | .ok ts =>
    match CommandLine.read (Settings.set program) (.usage program) false { settings := {} } ts with
    | .error e => .error e
    | .ok r =>
      .ok (⟨verb, Path.ofString (r.operand.getD defaultMakefile), r.settings⟩, r.extras)

/-- What follows a request for help in front of a command cannot be read. -/
def readHelp (program : String) (use : Use) : Stop :=
  match use.values [] with
  | .ok _ => .help program
  | .error message => .usage program message

/-- Read the command and its arguments.  Options in front of the command
other than a request for help are left over. -/
def readCommand (program : String) (extras : List String) :
    List Token → Except Stop (Option Call × List String)
  | [] => .ok (none, extras)
  | .option text none :: ts => readCommand program (extras ++ [text]) ts
  | .option _ (some use) :: _ => .error (readHelp program use)
  | .operand text :: ts =>
    match Verb.ofName? text with
    | none =>
      .error (.usage program (complaint "command" (invalidChoice text (Verb.all.map Verb.name))))
    | some verb =>
      (verb.read program (ts.map Token.text)).map fun (call, left) => (some call, extras ++ left)
  | .separator :: ts =>
    if ts.isEmpty then .ok (none, extras ++ ["--"])
    else .error (.usage program
      (complaint "command" (invalidChoice "--" (Verb.all.map Verb.name))))

/-- A first argument that is neither an option nor a command belongs to
`serve`. -/
def withVerb (arguments : List String) : List String :=
  match arguments with
  | first :: _ =>
    if first.toList.head? ≠ some '-' ∧ (Verb.ofName? first).isNone then
      Verb.serve.name :: arguments
    else arguments
  | [] => []

/-- Read a command line.  Nothing may be left over. -/
def parse (program : String) (arguments : List String) : Except Stop (Option Call) :=
  match tokens [.help] isDigit (withVerb arguments) with
  | .error message => .error (.usage program message)
  | .ok ts =>
    match readCommand program [] ts with
    | .error e => .error e
    | .ok (call, []) => .ok call
    | .ok (_, extras) =>
      .error (.usage program ("unrecognized arguments: " ++ " ".intercalate extras))

end MakeTools.CommandLine
