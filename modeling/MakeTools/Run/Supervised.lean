import MakeTools.Run.Child

/-!
# MakeTools.Run.Supervised

Running a request as a child process under supervision.

Everything that can be checked is checked before the child is started, except
that a time limit may turn out to be beyond the clock afterwards.  A child that
runs out of time or whose run is cancelled is killed with its whole
group and waited for; after any other failure the run is reported as failed.
-/

namespace MakeTools

/-- Where a request runs. -/
def Request.workDirectory (r : Request) : Path := r.directory.getD r.makefile.parent

namespace Run

/-! ## Checks -/

/-- Check that the command can be built and the Makefile is a file, and the
time limit. -/
def checkRequest (disk : Disk) (r : Request) : Except Problem (List String) :=
  match Command.build r.target r.makefile r.settings r.rawArgs with
  | .error e => .error (.rejected e)
  | .ok command =>
    match disk.lookup r.makefile with
    | .error e => .error (.refused e)
    | .ok none => .error (.makefileMissing r.makefile)
    | .ok (some .directory) => .error (.makefileNotAFile r.makefile)
    | .ok (some (.file _)) =>
      if r.timeout ≤ 0 then .error (.timeoutNotPositive r.timeout) else .ok command

/-- Check that the command has a directory to run in. -/
def checkDirectory (disk : Disk) (path : Path) : Except Problem Unit :=
  match disk.lookup path with
  | .error e => .error (.refused e)
  | .ok none => .error (.directoryMissing path)
  | .ok (some (.file _)) => .error (.notADirectory path)
  | .ok (some .directory) => .ok ()

/-- The longest time limit, in seconds, that is not remarked on. -/
def longTimeout : Int := 3600

/-- The remark on a long time limit. -/
def timeoutLog (timeout : Int) : List Log.Entry :=
  if longTimeout < timeout then
    [⟨.warning, .executor, "Very long timeout specified: " ++ toString timeout
      ++ "s (max recommended: " ++ toString longTimeout ++ "s)"⟩]
  else []

/-- The failure to set a time limit that the clock, which counts in
floating-point numbers, cannot count up to. -/
def timeoutFailure? (timeout : Int) : Option Failure :=
  if Decimal.isRoundable timeout then none else some .notRoundable

/-! ## The run -/

/-- The outcome of a run that broke off. -/
def broken (target : String) (command : List String) (duration : Float) (text : String) :
    Outcome where
  success := false
  exitCode := -1
  output := text
  duration := duration
  target := target
  command := command

/-- A return code as it is logged. -/
def codeText : Option Int → String
  | some n => toString n
  | none => "None"

/-- What is logged of a child that ended. -/
def completedLog (c : Child) (target : String) (duration : Float) : Log.Entry :=
  ⟨.info, .executor, "Target '" ++ target ++ "' completed in " ++ Decimal.fixed 2 duration
    ++ "s with exit code " ++ codeText c.returnCode⟩

/-- End a run that failed.  Only a child that was started is killed, and only
if the time ran out or the run was cancelled. -/
def breakOff (r : Request) (command : List String) (duration : Float) (started : Option Child)
    (f : Failure) : Run :=
  let killing := killStarted started
  match f.kind with
  | .timeout =>
    { result := match killing.failure with
        | some g => .error (.failed g)
        | none => .ok (broken r.target command duration
            ("Execution timed out after " ++ toString r.timeout ++ " seconds"))
      events := killing.events
      log := ⟨.error, .executor,
        "Target '" ++ r.target ++ "' timed out after " ++ toString r.timeout ++ "s"⟩ ::
        killing.log
      readings := 2 }
  | .cancelled =>
    { result := .error (.failed (killing.failure.getD f))
      events := killing.events
      log := ⟨.info, .executor, "Target '" ++ r.target ++ "' was cancelled, killing process"⟩ ::
        killing.log
      readings := 1 }
  | _ =>
    { result := .ok (broken r.target command duration
        ("Unexpected error during execution: " ++ f.text))
      log := [⟨.error, .executor, "Failed to execute target '" ++ r.target ++ "'"⟩]
      readings := 2 }

/-- See a child through from the moment it is to be started.  The time limit is
set between starting it and talking to it. -/
def attend (c : Child) (r : Request) (command : List String) : Run :=
  let duration := c.tick.now - c.now
  match c.spawnFailure, (timeoutFailure? r.timeout).or c.communicateFailure with
  | some f, _ => breakOff r command duration none f
  | none, some f => breakOff r command duration (some c) f
  | none, none =>
    { result := .ok (c.outcome r.target command duration)
      log := [completedLog c r.target duration]
      readings := 2 }

/-- Start the child in a directory and see it through. -/
def launch (c : Child) (r : Request) (command : List String) (directory : Path) : Run :=
  let rest := attend c r command
  { rest with
    events := .spawn command directory true :: rest.events
    log := ⟨.info, .executor,
      "Executing: " ++ Command.line command ++ " in " ++ toString directory⟩ :: rest.log }

/-- Check the directory, then start the child. -/
def launchIn (disk : Disk) (c : Child) (r : Request) (command : List String) : Run :=
  match checkDirectory disk r.workDirectory with
  | .error e => { result := .error e }
  | .ok () => launch c r command r.workDirectory

/-- Run a request as a child process. -/
def withChild (disk : Disk) (c : Child) (r : Request) : Run :=
  match checkRequest disk r with
  | .error e => { result := .error e }
  | .ok command =>
    let rest := launchIn disk c r command
    { rest with log := timeoutLog r.timeout ++ rest.log }

end Run
end MakeTools
