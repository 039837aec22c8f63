import MakeTools.Catalog.Load
import MakeTools.Run.Executor
import MakeTools.Tool

/-!
# MakeTools.Server.Config

How a server is set up, and which tools it offers of the Makefile as it
stands.

A Makefile that is missing or cannot be read gives an empty catalog, and so no
tools.  A name that is declared more than once is offered once, as its first
declaration says.
-/

namespace MakeTools

/-- How a server is set up. -/
structure Server.Config where
  makefile : Path
  /-- The targets that are offered; all of them if the list is empty. -/
  allowed : List String := []
  toolPrefix : String := Tool.defaultPrefix
  /-- The time limit of a run.  It is read from a text, and so it can be
  written. -/
  timeout : Int := Request.defaultTimeout
  /-- The most characters of output in a report; any number if zero or less. -/
  maxChars : Int := 0
  /-- How many comment lines are searched for a usage hint. -/
  window : Int := Catalog.defaultWindow
  executor : Executor := .standard
  /-- How many lists and records inside one another an argument may have that
  is written as a text.  The stack has room for about this many. -/
  room : Nat := 900

namespace Server.Config

/-- May the target be offered? -/
def isAllowed (cfg : Config) (target : String) : Bool :=
  cfg.allowed.isEmpty || cfg.allowed.contains target

/-! ## Loading -/

/-- Load the Makefile. -/
def load (cfg : Config) (disk : Disk) : Except Catalog.LoadError Catalog :=
  Catalog.load cfg.window disk cfg.makefile

/-- The catalog to go on with after loading: an empty one if the Makefile is
missing or cannot be read. -/
def settle (cfg : Config) : Except Catalog.LoadError Catalog → Except Disk.Refusal Catalog
  | .ok c => .ok c
  | .error (.refused r) => .error r
  | .error _ => .ok { path := cfg.makefile }

/-- What going on after loading logs. -/
def settleLog (cfg : Config) : Except Catalog.LoadError Catalog → List Log.Entry
  | .ok _ => []
  | .error (.refused _) => []
  | .error (.missing _) =>
    [⟨.warning, .server, "Makefile disappeared: " ++ toString cfg.makefile⟩]
  | .error e =>
    [⟨.warning, .server, "Could not read Makefile, exposing no targets: " ++ e.message⟩]

/-- The catalog of the Makefile as it stands. -/
def refresh (cfg : Config) (disk : Disk) : Except Disk.Refusal Catalog :=
  cfg.settle (cfg.load disk)

/-- What refreshing logs. -/
def refreshLog (cfg : Config) (disk : Disk) : List Log.Entry :=
  Catalog.loadLog (cfg.load disk) ++ cfg.settleLog (cfg.load disk)

/-! ## Listing -/

/-- The declarations that are offered, given the names that were seen so far.
Only the first declaration of a name counts, and only if the name may be
offered. -/
def offeredFrom (cfg : Config) (seen : List String) : List Target → List Target
  | [] => []
  | t :: ts =>
    if seen.contains t.name then offeredFrom cfg seen ts
    else if cfg.isAllowed t.name then t :: offeredFrom cfg (t.name :: seen) ts
    else offeredFrom cfg (t.name :: seen) ts

/-- The declarations of a catalog that are offered. -/
def offered (cfg : Config) (c : Catalog) : List Target := cfg.offeredFrom [] c.targets

/-- The tools of a catalog. -/
def tools (cfg : Config) (c : Catalog) : List Tool :=
  (cfg.offered c).map (Tool.ofTarget cfg.toolPrefix)

/-- What listing a catalog logs: each name that is left out, and how many are
not. -/
def toolsLog (cfg : Config) (c : Catalog) : List Log.Entry :=
  ((c.names.filter fun name => !cfg.isAllowed name).map fun name =>
    ⟨.debug, .server, "Skipping non-allowed target: " ++ name⟩) ++
  [⟨.info, .server, "Exposing " ++ toString (cfg.tools c).length ++ " targets as MCP tools"⟩]

end Server.Config
end MakeTools
