import MakeTools.CommandLine.Serve

/-!
# MakeTools.CommandLine.Basic

The program as one function: from everything that it sees to what it comes to.
-/

namespace MakeTools.CommandLine

/-- What reading stopped at comes to. -/
def Stop.ending : Stop → Ending
  | .help program => { exit := some 0, help := some program }
  | .usage program message =>
    { exit := some 2, stderr := program ++ ": error: " ++ message ++ "\n" }

/-- The path to a Makefile, or to its directory, that a command works with. -/
def Call.path (w : Surroundings) (c : Call) : Path :=
  match c.verb with
  | .preview | .list => c.makefile
  | .serve => ((w.environment.lookup "MCP_MAKE_PATH").map Path.ofString).getD c.makefile

/-- Run a command with its arguments. -/
def Call.ending (w : Surroundings) (c : Call) : Ending :=
  match c.verb with
  | .preview => withCatalog w.disk (c.path w) (previewLines c.settings.prefixText)
  | .list => withCatalog w.disk (c.path w) fun _ => listLines c.settings.prefixText
  | .serve => serve w (c.path w) c.settings

/-- The files that a run of the program looks at. -/
def consulted (w : Surroundings) : List Path :=
  match parse w.program w.arguments with
  | .ok (some call) => [call.path w, (call.path w).child defaultMakefile]
  | _ => []

/-- Run the program.  Without a command it shows its help and fails. -/
def run (w : Surroundings) : Ending :=
  match parse w.program w.arguments with
  | .error stop => stop.ending
  | .ok none => { exit := some 1, help := some w.program }
  | .ok (some call) => call.ending w

end MakeTools.CommandLine
