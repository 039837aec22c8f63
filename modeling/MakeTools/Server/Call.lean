import MakeTools.Server.Config

/-!
# MakeTools.Server.Call

Calls of tools: what is checked before a target is run, and the text that
answers a call in every case.

A call names a tool by the beginning that all tools share and by its target.
The target has to be declared in the Makefile as it stands and to be allowed,
the arguments have to be such as can be written, and a command has to come of
them.
-/

namespace MakeTools

/-- Names in order, each once. -/
def sortedNames (names : List String) : List String :=
  names.eraseDups.mergeSort fun a b => decide (a ≤ b)

namespace Server

/-! ## What stands against a call -/

/-- Why a call is rejected. -/
inductive Rejection where
  | unknownTool (name : String)
  | unknownTarget (target : String) (available : List String)
  | notAllowed (target : String) (allowed : List String)
  | tooManyDigits
  | command (r : Command.Rejection)
deriving DecidableEq, Repr

/-- The wording of a rejection. -/
def Rejection.message : Rejection → String
  | .unknownTool name => "Unknown tool: " ++ name
  | .unknownTarget target available =>
    (Catalog.Error.unknownTarget target (some available)).message
  | .notAllowed target allowed =>
    "Target '" ++ target ++ "' is not in the allowlist. Allowed targets: "
      ++ ", ".intercalate (sortedNames allowed)
  | .tooManyDigits => Value.Unwritable.tooManyDigits.message
  | .command r => r.message

/-- Why a call does not come to a run: it is rejected, the system refuses to
look the Makefile up, or an argument is nested too deeply. -/
inductive Obstacle where
  | rejected (r : Rejection)
  | unexpected (r : Disk.Refusal)
  | tooDeep
deriving DecidableEq, Repr

/-- What an argument that cannot be written is to a call. -/
def Obstacle.ofUnwritable : Value.Unwritable → Obstacle
  | .tooManyDigits => .rejected .tooManyDigits
  | .tooDeep => .tooDeep

/-! ## Arguments -/

/-- Does the argument set a variable?  Absent values are left out. -/
def isSetting (a : String × Value) : Bool := a.1 != rawArgsName && !a.2.isAbsent

/-- The texts of the arguments of a call, as far as they can be written: the
settings of variables, and the raw arguments. -/
def collect (arguments : List (String × Value)) : List (String × String) × String :=
  ((arguments.filter isSetting).map fun a => (a.1, a.2.render),
    match arguments.lookup rawArgsName with
    | none => ""
    | some v => if v.isVoid then "" else v.render)

/-- Write settings, one by one. -/
def writeSettings (room : Nat) :
    List (String × Value) → Except Value.Unwritable (List (String × String))
  | [] => .ok []
  | a :: rest =>
    match a.2.write room with
    | .error u => .error u
    | .ok text => (writeSettings room rest).map ((a.1, text) :: ·)

/-- Write the raw arguments.  What stands for nothing is not written. -/
def writeRawArgs (room : Nat) : Option Value → Except Value.Unwritable String
  | none => .ok ""
  | some v => if v.isVoid then .ok "" else v.write room

/-- Write the arguments of a call: the settings of variables, and the raw
arguments behind them. -/
def writeArguments (room : Nat) (arguments : List (String × Value)) :
    Except Value.Unwritable (List (String × String) × String) :=
  match writeSettings room (arguments.filter isSetting) with
  | .error u => .error u
  | .ok settings => (writeRawArgs room (arguments.lookup rawArgsName)).map (settings, ·)

namespace Config

/-- The target that a tool runs, by the tool's name. -/
def targetOf? (cfg : Config) (tool : String) : Option String :=
  (cfg.toolPrefix.toList.isPrefixOf? tool.toList).map String.ofList

/-- The request that a call of a declared target makes, with the settings and
the raw arguments that are given. -/
def request (cfg : Config) (target : String) (given : List (String × String) × String) :
    Request where
  target := target
  makefile := cfg.makefile
  settings := given.1
  rawArgs := given.2
  timeout := cfg.timeout

/-- Check a call of a target against the catalog. -/
def check (cfg : Config) (c : Catalog) (target : String) (arguments : List (String × Value)) :
    Except Obstacle Request :=
  if (c.find? target).isNone then .error (.rejected (.unknownTarget target c.names))
  else if !cfg.isAllowed target then .error (.rejected (.notAllowed target cfg.allowed))
  else
    match writeArguments cfg.room arguments with
    | .error u => .error (.ofUnwritable u)
    | .ok given =>
      let r := cfg.request target given
      match Command.build r.target r.makefile r.settings r.rawArgs with
      | .error e => .error (.rejected (.command e))
      | .ok _ => .ok r

/-- The request that a call makes, if nothing stands against it. -/
def accept (cfg : Config) (disk : Disk) (tool : String) (arguments : List (String × Value)) :
    Except Obstacle Request :=
  match cfg.targetOf? tool with
  | none => .error (.rejected (.unknownTool tool))
  | some target =>
    match cfg.refresh disk with
    | .error r => .error (.unexpected r)
    | .ok c => cfg.check c target arguments

/-! ## Answers -/

/-- The text that answers a call that comes to no run. -/
def obstacleText : Obstacle → String
  | .rejected r => "Error: " ++ r.message
  | .unexpected _ | .tooDeep =>
    "An unexpected error occurred. Please check the server logs for details."

/-- What is logged of a call that comes to no run. -/
def obstacleLog : Obstacle → Log.Entry
  | .rejected r => ⟨.warning, .server, "Tool call rejected: " ++ r.message⟩
  | .unexpected r => ⟨.error, .server, "Unexpected error in tool call: " ++ r.message⟩
  | .tooDeep =>
    ⟨.error, .server, "Unexpected error in tool call: " ++ Value.Unwritable.tooDeep.message⟩

/-- The text that answers a call whose run broke down. -/
def problemText (target : String) (p : Run.Problem) : String :=
  match p.kind with
  | .cancelled => "Target '" ++ target ++ "' was cancelled before completion."
  | .fileMissing =>
    "Error: " ++ p.message ++ ". Check that the Makefile exists and is accessible."
  | .permission =>
    "Error: Permission denied. Check file permissions for the Makefile and working directory."
  | _ => "Failed to execute make " ++ target ++ ": " ++ p.message

/-- What is logged of a run that broke down. -/
def problemLog (target : String) (p : Run.Problem) : Log.Entry :=
  match p.kind with
  | .cancelled => ⟨.info, .server, "Target '" ++ target ++ "' was cancelled"⟩
  | .fileMissing => ⟨.error, .server, "File not found during execution: " ++ p.message⟩
  | .permission => ⟨.error, .server, "Permission denied during execution: " ++ p.message⟩
  | _ => ⟨.error, .server, "Execution failed for target '" ++ target ++ "': " ++ p.message⟩

/-- The text that answers a call that came to a run. -/
def runText (cfg : Config) (target : String) (run : Run) : String :=
  match run.result with
  | .ok o => o.report cfg.maxChars
  | .error p => problemText target p

/-- What is logged of a call that came to a run. -/
def runLog (cfg : Config) (target : String) (run : Run) : List Log.Entry :=
  ⟨.info, .server, "Executing target: " ++ target ++ " (timeout: " ++ toString cfg.timeout ++ "s)"⟩
    :: run.log ++
    match run.result with
    | .ok _ => []
    | .error p => [problemLog target p]

end Config

end Server
end MakeTools
