import MakeTools.CommandLine.Basic

/-!
# MakeTools.Main

The program on a real machine: it gathers what a command sees, runs the
command, and shows what came of it.  Serving ends once the server has started;
the exchange of messages with clients is for a program that embeds the
library.
-/

namespace MakeTools.CommandLine

/-- What stands at a path of the real disk. -/
def probe (path : Path) : IO (List Disk.Change) := do
  let file := (← IO.currentDir) / toString path
  if ← file.isDir then return [.makeDirectory]
  try
    let bytes ← IO.FS.readBinFile file
    return [.write bytes.toList]
  catch
    | .noFileOrDirectory .. => return []
    | .inappropriateType .. => return []
    | .permissionDenied .. => return [.write [], .fault .unreadable]
    | _ => return [.write [], .fault .inputOutput]

/-- Learn what stands at a path and on the way to it. -/
def explore (disk : Disk) (path : Path) : IO Disk := do
  let mut disk := disk
  for n in List.range path.parts.length do
    let above := { path with parts := path.parts.take (n + 1) }
    for change in ← probe above do
      disk := disk.apply above change
  return disk

/-- Can a program be found in one of the directories that the system
searches? -/
def isInstalled (program : String) : IO Bool := do
  let places := ((← IO.getEnv "PATH").getD "").toList.splitOn ':'
  for place in places do
    try
      let _ ← IO.FS.Handle.mk (String.ofList place ++ "/" ++ program) .read
      return true
    catch _ => pure ()
  return false

/-- The environment settings that are set. -/
def settingsFromEnvironment : IO (List (String × String)) :=
  ["MCP_MAKE_LOG_LEVEL", "MCP_MAKE_PATH", "MCP_MAKE_ALLOWED_TARGETS",
    "MCP_MAKE_TIMEOUT"].filterMapM fun name => do
      return (← IO.getEnv name).map fun value => (name, value)

/-- Gather what a command sees. -/
def gather (arguments : List String) : IO Surroundings := do
  let here := Path.ofString (toString (← IO.currentDir))
  let w : Surroundings :=
    { arguments
      environment := ← settingsFromEnvironment
      makeInstalled := ← isInstalled "make"
      disk := { workDirectory := here.parts } }
  let mut disk := w.disk
  for path in consulted w do
    disk ← explore disk path
  return { w with disk }

/-- The level of a severity. -/
def severityLevel : Log.Severity → Nat
  | .debug => 10
  | .info => 20
  | .warning => 30
  | .error => 40

/-- How the commands are called. -/
def usageLine (program : String) : String :=
  "usage: " ++ program ++ " [-h] [" ++ " | ".intercalate (Verb.all.map Verb.name)
    ++ "] [makefile] [options]"

/-- Show what came of a command. -/
def Ending.show (e : Ending) : IO UInt32 := do
  for entry in e.log do
    if (e.logLevel.getD 30) ≤ severityLevel entry.severity then
      IO.eprintln entry.text
  match e.help with
  | some program => IO.println (usageLine program)
  | none => pure ()
  IO.print e.stdout
  IO.eprint e.stderr
  match e.crash with
  | some c =>
    IO.eprintln c.message
    return 1
  | none => return ((e.exit.getD 0).toNat.toUInt32)

end MakeTools.CommandLine

/-- Run the program. -/
def main (arguments : List String) : IO UInt32 := do
  let w ← MakeTools.CommandLine.gather arguments
  (MakeTools.CommandLine.run w).show
