import MakeTools.Server.Call

/-!
# MakeTools.Server.Basic

A server that offers the targets of one Makefile as tools.

The Makefile is loaded again for every answer, so that the tools are those of
the file as it stands.  An allowlist restricts both what is listed and what
may be called.  A call is answered with a text in every case: it is rejected
with a reason, or the target is run and the run is reported.
-/

namespace MakeTools

/-- A server: its set-up, the catalog it loaded last, and the record of its
dry runs. -/
structure Server where
  config : Server.Config
  catalog : Option Catalog := none
  recorded : List (List String) := []

namespace Server

/-- What a step of a server gives beside the server: an answer, what was asked
of the operating system, and what was logged. -/
structure Reply (α : Type) where
  answer : α
  events : List Event := []
  log : List Log.Entry := []

/-- The server with the catalog that loading gave. -/
def keep (s : Server) : Except Disk.Refusal Catalog → Server
  | .ok c => { s with catalog := some c }
  | .error _ => s

/-- The tools of the Makefile as it stands. -/
def list (s : Server) (disk : Disk) : Server × Reply (Except Disk.Refusal (List Tool)) :=
  let fresh := s.config.refresh disk
  (s.keep fresh,
    { answer := fresh.map s.config.tools
      log := s.config.refreshLog disk ++
        match fresh with
        | .ok c => s.config.toolsLog c
        | .error _ => [] })

/-- The server after a call has loaded the Makefile.  A name that cannot be a
tool's is not worth loading it. -/
def afterLookup (s : Server) (disk : Disk) (tool : String) : Server :=
  match s.config.targetOf? tool with
  | some _ => s.keep (s.config.refresh disk)
  | none => s

/-- What loading the Makefile for a call logs. -/
def lookupLog (s : Server) (disk : Disk) (tool : String) : List Log.Entry :=
  match s.config.targetOf? tool with
  | some _ => s.config.refreshLog disk
  | none => []

/-- Call a tool. -/
def call (s : Server) (disk : Disk) (tool : String) (arguments : List (String × Value)) :
    Server × Reply String :=
  let s' := s.afterLookup disk tool
  match s.config.accept disk tool arguments with
  | .error o =>
    (s',
      { answer := Config.obstacleText o
        log := s.lookupLog disk tool ++ [Config.obstacleLog o] })
  | .ok request =>
    let run := s.config.executor.run disk request
    ({ s' with recorded := s'.recorded ++ s.config.executor.recorded run },
      { answer := s.config.runText request.target run
        events := run.events
        log := s.lookupLog disk tool ++ s.config.runLog request.target run })

/-! ## Starting -/

/-- Why a server does not start. -/
inductive StartProblem where
  | load (e : Catalog.LoadError)
  | undeclared (missing available : List String)
deriving DecidableEq, Repr

/-- The wording of a start problem. -/
def StartProblem.message : StartProblem → String
  | .load e => e.message
  | .undeclared missing available =>
    "Allowed targets not found in Makefile: " ++ ", ".intercalate (sortedNames missing)
      ++ ". Available targets: " ++ ", ".intercalate (sortedNames available)

/-- The allowed targets that a catalog does not declare. -/
def Config.undeclared (cfg : Config) (c : Catalog) : List String :=
  cfg.allowed.filter fun name => !c.names.contains name

/-- What is logged of an allowlist when a server starts. -/
def Config.allowedLog (cfg : Config) : List Log.Entry :=
  if cfg.allowed.isEmpty then []
  else [⟨.info, .server, "Allowed targets filter: " ++ toString cfg.allowed.eraseDups.length
    ++ " targets"⟩]

/-- Load the Makefile and check the allowlist against it. -/
def start (s : Server) (disk : Disk) :
    Server × Reply (Except StartProblem (List String)) :=
  let loaded := s.config.load disk
  let opening : Log.Entry :=
    ⟨.info, .server, "Parsing Makefile: " ++ toString s.config.makefile⟩
  match loaded with
  | .error e => (s, { answer := .error (.load e), log := opening :: Catalog.loadLog loaded })
  | .ok c =>
    let missing := s.config.undeclared c
    ({ s with catalog := some c },
      { answer := if missing.isEmpty then .ok c.names else .error (.undeclared missing c.names)
        log := opening :: Catalog.loadLog loaded ++
          [⟨.info, .server, "Found " ++ toString c.targets.length ++ " targets"⟩] ++
          s.config.allowedLog })

end Server
end MakeTools
