import MakeTools.Catalog.Error
import MakeTools.Catalog.Reader
import MakeTools.Disk

/-!
# MakeTools.Catalog.Load

Loading a catalog from a file.

The path has to lead to a readable file of UTF-8 text; every line ending in
it counts as a line feed.  Of several things that are wrong, the first in this
order is told: the system refuses the path, nothing is there, it is no file,
access is denied, reading fails, the bytes are no text.
-/

namespace MakeTools.Catalog

open Text

/-- Why a file that is there could not be read. -/
inductive ReadProblem where
  | notAFile
  | noAccess
  | permission
  | inputOutput
  | notUtf8 (e : Utf8.Error)
deriving DecidableEq, Repr

/-- The wording of a problem with a file. -/
def ReadProblem.message (path : Path) : ReadProblem → String
  | .notAFile => "Path is not a file: " ++ toString path
  | .noAccess => "File is not readable: " ++ toString path
  | .permission => "Permission denied reading file: "
      ++ Disk.systemMessage 13 "Permission denied" path
  | .inputOutput => "Failed to read file: " ++ Disk.systemMessage 5 "Input/output error" path
  | .notUtf8 e => "File is not valid UTF-8: " ++ e.message

/-- Why no catalog could be loaded. -/
inductive LoadError where
  | refused (r : Disk.Refusal)
  | missing (path : Path)
  | unreadable (path : Path) (problem : ReadProblem)
deriving DecidableEq, Repr

/-- The wording of a load error. -/
def LoadError.message : LoadError → String
  | .refused r => r.message
  | .missing path => (Error.missing (toString path)).message
  | .unreadable path problem => (Error.unreadable (toString path) (problem.message path)).message

/-- The text of a file with these bytes. -/
def textOf (bytes : List UInt8) : Except Utf8.Error String :=
  (Utf8.decode bytes).map fun s => String.ofList (universalNewlines s)

/-- Read the bytes of a file, past the fault that it has. -/
def readBytes (fault : Option Disk.Fault) (bytes : List UInt8) : Except ReadProblem String :=
  match fault with
  | some .unreadable => .error .noAccess
  | some .permission => .error .permission
  | some .inputOutput => .error .inputOutput
  | none => (textOf bytes).mapError .notUtf8

/-- The text of the file at a path. -/
def readText (disk : Disk) (path : Path) : Except LoadError String :=
  match disk.lookup path with
  | .error r => .error (.refused r)
  | .ok none => .error (.missing path)
  | .ok (some .directory) => .error (.unreadable path .notAFile)
  | .ok (some (.file bytes)) =>
    (readBytes (disk.faultAt? path) bytes).mapError (.unreadable path)

/-- Load the catalog of the Makefile at a path. -/
def load (window : Int) (disk : Disk) (path : Path) : Except LoadError Catalog :=
  (readText disk path).map (ofText window path)

/-- What is logged when loading came to this. -/
def loadLog : Except LoadError Catalog → List Log.Entry
  | .ok c => c.log
  | .error (.unreadable _ .inputOutput) => [⟨.error, .reader, "Failed to read Makefile"⟩]
  | .error _ => []

end MakeTools.Catalog
