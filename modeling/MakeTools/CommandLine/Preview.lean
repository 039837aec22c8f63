import MakeTools.CommandLine.Call
import MakeTools.CommandLine.Ending

/-!
# MakeTools.CommandLine.Preview

The two commands that print a catalog: `preview` shows the tools that a
Makefile gives, `list` prints their names.

A path to a directory means the Makefile in it.
-/

namespace MakeTools.CommandLine

/-! ## Finding the Makefile -/

/-- The Makefile that a path means: the path itself, or the one in the
directory that it leads to. -/
def resolveMakefile (disk : Disk) (path : Path) : Except Disk.Refusal Path :=
  (disk.lookup path).map fun
    | some .directory => path.child defaultMakefile
    | _ => path

/-- Find the Makefile that a path means, and go on if something is there. -/
def withMakefile (disk : Disk) (path : Path) (goOn : Path → Ending) : Ending :=
  match resolveMakefile disk path with
  | .error r => crashed (.refused r)
  | .ok makefile =>
    match disk.lookup makefile with
    | .error r => crashed (.refused r)
    | .ok none => complain ("Makefile not found: " ++ toString makefile)
    | .ok (some _) => goOn makefile

/-- Load the Makefile that a path means, and print lines about it. -/
def withCatalog (disk : Disk) (path : Path) (lines : Path → Catalog → List String) : Ending :=
  withMakefile disk path fun makefile =>
    let loaded := Catalog.load Catalog.defaultWindow disk makefile
    let ending : Ending := match loaded with
      | .error e => crashed (.load e)
      | .ok c => { stdout := printed (lines makefile c) }
    { ending with log := Catalog.loadLog loaded }

/-! ## Printing -/

/-- What `preview` prints of a variable. -/
def variableLine (v : Variable) : String :=
  let mark := if v.required then "*" else " "
  let default := match v.default with
    | some value => " (default: " ++ value ++ ")"
    | none => ""
  "    " ++ mark ++ " " ++ v.name ++ default

/-- What `preview` prints of a target. -/
def targetLines (toolPrefix : String) (t : Target) : List String :=
  ["", "  " ++ t.toolName toolPrefix, "    " ++ t.description] ++
  (match t.usageHint with
    | none | some "" => []
    | some hint => ["    Usage: " ++ hint]) ++
  (if t.dependencies.isEmpty then []
    else ["    Depends on: " ++ ", ".intercalate t.dependencies]) ++
  t.mentions.map variableLine

/-- What `preview` prints. -/
def previewLines (toolPrefix : String) (makefile : Path) (c : Catalog) : List String :=
  ["Makefile: " ++ toString makefile,
    "Total targets: " ++ toString c.targets.length,
    "Global variables: " ++ toString c.assigned.length, ""] ++
  if c.targets.isEmpty then ["No targets would be exposed as MCP tools."]
  else
    c.targets.flatMap (targetLines toolPrefix) ++
    ["", String.ofList (List.replicate 70 '='),
      "Variables marked * are required. Every tool also accepts raw 'args'.", ""]

/-- What `list` prints. -/
def listLines (toolPrefix : String) (c : Catalog) : List String :=
  c.names.map (toolPrefix ++ ·)

end MakeTools.CommandLine
