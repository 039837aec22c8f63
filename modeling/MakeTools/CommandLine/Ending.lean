import MakeTools.CommandLine.Options
import MakeTools.Log.Level
import MakeTools.Server.Basic

/-!
# MakeTools.CommandLine.Ending

What a command comes to: an exit code, printed text, a server, or a crash.

A command that only has something to complain about ends with code one.  A
crash is an error that no command handles; whoever runs the command decides
how to show it.
-/

namespace MakeTools.CommandLine

/-- A server that was set up, which of its options were given without their
value, and whether it came to serving. -/
structure Served where
  config : Server.Config
  blank : List Flag
  serving : Bool

/-- What gets through and ends the program. -/
inductive Crash where
  | refused (r : Disk.Refusal)
  | load (e : Catalog.LoadError)
  | start (p : Server.StartProblem)
  | level (p : Log.LevelProblem)
deriving DecidableEq, Repr

/-- The wording of a crash. -/
def Crash.message : Crash → String
  | .refused r => r.message
  | .load e => e.message
  | .start p => p.message
  | .level p => p.message

/-- What a command comes to. -/
structure Ending where
  /-- The exit code, if the command sets one. -/
  exit : Option Int := none
  /-- The program or command whose help is shown, in front of all else. -/
  help : Option String := none
  stdout : String := ""
  stderr : String := ""
  crash : Option Crash := none
  /-- The log level that was set. -/
  logLevel : Option Nat := none
  served : Option Served := none
  log : List Log.Entry := []

/-- Lines, each with its line feed. -/
def printed (ls : List String) : String := "".intercalate (ls.map (· ++ "\n"))

/-- End with an error message and exit code one. -/
def complain (message : String) : Ending :=
  { exit := some 1, stderr := printed ["Error: " ++ message] }

/-- End with a crash. -/
def crashed (c : Crash) : Ending := { crash := some c }

end MakeTools.CommandLine
