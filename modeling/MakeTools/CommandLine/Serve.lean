import MakeTools.CommandLine.Preview

/-!
# MakeTools.CommandLine.Serve

The command `serve`, which starts a server.

A server can also be set up by the environment: level and Makefile there win
over the arguments, the allowlist and the time limit there count only if no
option gives them.  The path is looked at first, then the time limit, the
level, the Makefile, and last whether `make` is there at all.
-/

namespace MakeTools.CommandLine

/-- Everything that a command sees. -/
structure Surroundings where
  program : String := "mcp-make-targets"
  arguments : List String
  environment : List (String × String) := []
  makeInstalled : Bool := true
  disk : Disk := {}

/-- The names in a text that separates them by commas. -/
def commaSeparated (s : String) : List String :=
  ((s.toList.splitOn ',').map Text.trim).filterMap fun name =>
    if name.isEmpty then none else some (String.ofList name)

/-- The allowlist: from the options, or else from the environment. -/
def allowedTargets (w : Surroundings) (s : Settings) : List String :=
  if s.allowed.isEmpty then
    commaSeparated ((w.environment.lookup "MCP_MAKE_ALLOWED_TARGETS").getD "")
  else s.allowed

/-- The time limit that the environment sets.  The error is the text that is
no number. -/
def environmentTimeLimit (w : Surroundings) : Except String Int :=
  match w.environment.lookup "MCP_MAKE_TIMEOUT" with
  | none => .ok Request.defaultTimeout
  | some text =>
    match Text.Integer.read? text.toList with
    | some n => .ok n
    | none => .error text

/-- The time limit: from the options, or else from the environment.  An option
without its value keeps the environment out. -/
def timeLimit (w : Surroundings) (s : Settings) : Except String Int :=
  if s.blank.contains .timeout then .ok Request.defaultTimeout
  else match s.timeout with
    | some n => .ok n
    | none => environmentTimeLimit w

/-- The log level: from the environment, or else from the options. -/
def logLevel (w : Surroundings) (s : Settings) : Except Log.LevelProblem Nat :=
  match w.environment.lookup "MCP_MAKE_LOG_LEVEL" with
  | some name => Log.level name
  | none => if s.blank.contains .logLevel then .error .notAName else Log.level s.logLevel

/-- Start a server. -/
def startServer (disk : Disk) (config : Server.Config) (blank : List Flag) : Ending :=
  let (_, reply) := Server.start { config } disk
  match reply.answer with
  | .ok _ => { served := some ⟨config, blank, true⟩, log := reply.log }
  | .error p =>
    { crash := some (.start p), served := some ⟨config, blank, false⟩, log := reply.log }

/-- Check that a server has something to work with, and start it. -/
def serveMakefile (w : Surroundings) (s : Settings) (makefile : Path) (timeout : Int) : Ending :=
  match w.disk.lookup makefile with
  | .error r => crashed (.refused r)
  | .ok none => complain ("Makefile not found: " ++ toString makefile)
  | .ok (some _) =>
    if !w.makeInstalled then
      complain "'make' command not found. Please install make before using this server"
    else
      startServer w.disk
        { makefile
          allowed := allowedTargets w s
          toolPrefix := s.prefixText
          timeout
          maxChars := s.maxChars
          executor := .child {} }
        s.blank

/-- Run `serve` on the Makefile that a path means. -/
def serve (w : Surroundings) (path : Path) (s : Settings) : Ending :=
  match resolveMakefile w.disk path with
  | .error r => crashed (.refused r)
  | .ok makefile =>
    match timeLimit w s with
    | .error text => complain ("MCP_MAKE_TIMEOUT must be an integer, got: " ++ text)
    | .ok timeout =>
      match logLevel w s with
      | .error p => crashed (.level p)
      | .ok level => { serveMakefile w s makefile timeout with logLevel := some level }

end MakeTools.CommandLine
