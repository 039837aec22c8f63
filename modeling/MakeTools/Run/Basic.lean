import MakeTools.Command
import MakeTools.Decimal.Fixed
import MakeTools.Disk
import MakeTools.Failure
import MakeTools.Log

/-!
# MakeTools.Run.Basic

Running a target: what is asked for, what came of it, and what it asked of
the operating system.
-/

namespace MakeTools

/-- The time limit in seconds, if nothing else is said. -/
def Request.defaultTimeout : Int := 30

/-- A target to be run. -/
structure Request where
  target : String
  makefile : Path
  /-- The values that variables are given. -/
  settings : List (String × String) := []
  rawArgs : String := ""
  /-- Where to run; without it, where the Makefile stands. -/
  directory : Option Path := none
  /-- The time limit in seconds. -/
  timeout : Int := Request.defaultTimeout
deriving DecidableEq, Repr

/-- What came of a run. -/
structure Outcome where
  success : Bool
  exitCode : Int
  output : String
  /-- In seconds. -/
  duration : Float
  target : String
  command : List String

namespace Outcome

/-- The command on one line. -/
def commandLine (o : Outcome) : String := Command.line o.command

/-- The output part of a report.  A text of more than `maxChars` characters is
cut there and the cut is told, unless `maxChars` is zero or less; an empty
output is left out. -/
def outputText (maxChars : Int) (text : String) : String :=
  if 0 < maxChars ∧ maxChars < text.length then
    let omitted : Int := text.length - maxChars
    "Output:\n" ++ String.ofList (text.toList.take maxChars.toNat)
      ++ "\n\n... (truncated, " ++ toString omitted ++ " chars omitted)\n"
      ++ "\nNote: Output exceeded " ++ toString maxChars ++ " characters and was truncated.\n"
  else if text.isEmpty then ""
  else "Output:\n" ++ text ++ "\n"

/-- The report on a run. -/
def report (maxChars : Int) (o : Outcome) : String :=
  (if o.success then "Successfully executed: " else "Failed to execute ") ++ o.commandLine ++ "\n"
    ++ "Exit Code: " ++ toString o.exitCode ++ "\n"
    ++ "Duration: " ++ Decimal.fixed 2 o.duration ++ "s\n\n"
    ++ outputText maxChars o.output

end Outcome

/-- What a run asks of the operating system: start a command in a directory,
in a session of its own or not; send a signal to a process group; wait for the
process to end. -/
inductive Event where
  | spawn (command : List String) (directory : Path) (ownSession : Bool)
  | killGroup (pid : Int) (signal : Nat)
  | wait
deriving DecidableEq, Repr

/-- Why a run gave no outcome: it was refused before anything was started, or
a failure got through. -/
inductive Run.Problem where
  | rejected (r : Command.Rejection)
  | refused (r : Disk.Refusal)
  | makefileMissing (path : Path)
  | makefileNotAFile (path : Path)
  | timeoutNotPositive (timeout : Int)
  | directoryMissing (path : Path)
  | notADirectory (path : Path)
  | failed (f : Failure)
deriving DecidableEq, Repr

namespace Run.Problem

/-- The wording of a problem. -/
def message : Run.Problem → String
  | .rejected r => r.message
  | .refused r => r.message
  | .makefileMissing path => "Makefile not found: " ++ toString path
  | .makefileNotAFile path => "Makefile path is not a file: " ++ toString path
  | .timeoutNotPositive timeout => "Timeout must be positive, got: " ++ toString timeout
  | .directoryMissing path => "Working directory does not exist: " ++ toString path
  | .notADirectory path => "Working directory is not a directory: " ++ toString path
  | .failed f => f.text

/-- The kind of failure that a problem counts as. -/
def kind : Run.Problem → Failure.Kind
  | .rejected _ | .makefileNotAFile _ | .timeoutNotPositive _ | .notADirectory _ => .value
  | .refused _ => .system "OSError"
  | .makefileMissing _ | .directoryMissing _ => .fileMissing
  | .failed f => f.kind

end Run.Problem

/-- One run: what came of it, what it asked of the operating system, what it
logged, and how often it read the clock. -/
structure Run where
  result : Except Run.Problem Outcome
  events : List Event := []
  log : List Log.Entry := []
  readings : Nat := 0

end MakeTools
