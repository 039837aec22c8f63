import MakeTools.Run.Supervised

/-!
# MakeTools.Run.Executor

The ways to run a target: for real, as a child process; dry, with a set answer
and a record of the commands; and not at all, with a set failure.
-/

namespace MakeTools

/-- A way to run targets. -/
inductive Executor where
  | dry (succeeds : Bool) (output : String)
  | child (c : Child)
  | failing (f : Failure)

namespace Executor

/-- Dry, successful, and silent. -/
def standard : Executor := .dry true ""

/-- The outcome of a dry run. -/
def dryOutcome (succeeds : Bool) (output : String) (r : Request) (command : List String) :
    Outcome where
  success := succeeds
  exitCode := if succeeds then 0 else 2
  output := if succeeds then output else "Mock error"
  duration := 0.1
  target := r.target
  command := command

/-- Run a request. -/
def run (e : Executor) (disk : Disk) (r : Request) : Run :=
  match e with
  | .child c => Run.withChild disk c r
  | .failing f => { result := .error (.failed f) }
  | .dry succeeds output =>
    match Command.build r.target r.makefile r.settings r.rawArgs with
    | .error rejection => { result := .error (.rejected rejection) }
    | .ok command =>
      { result := .ok (dryOutcome succeeds output r command)
        log := [⟨.debug, .executor, "DryRun: Would execute " ++ Command.line command⟩] }

/-- The commands that a run adds to the record.  Only dry runs are recorded. -/
def recorded (e : Executor) (run : Run) : List (List String) :=
  match e, run.result with
  | .dry _ _, .ok o => [o.command]
  | _, _ => []

/-- The way to run targets after a run: a child's clock goes on. -/
def after (e : Executor) (run : Run) : Executor :=
  match e with
  | .child c => .child { c with clock := c.clock.drop run.readings }
  | e => e

end Executor
end MakeTools
