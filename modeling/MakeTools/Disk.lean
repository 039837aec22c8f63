import MakeTools.Path
import MakeTools.Text.Quoted
import MakeTools.Text.Utf8

/-!
# MakeTools.Disk

Files as the program sees them: what stands where, and which files cannot be
read properly.

A path is looked up component by component, from the working directory or from
the root.  Each component but the last has to be a directory, two dots lead to
the directory above, and a component of more than 255 bytes is refused by the
system.

What stands somewhere belongs to the place, and every path that leads there
finds it.  A fault belongs to a path as it is written: another spelling of the
way to the same file, with two dots in it, does not meet the fault.
-/

namespace MakeTools

namespace Disk

/-- What stands at a path. -/
inductive Entry where
  | file (bytes : List UInt8)
  | directory
deriving DecidableEq, Repr

/-- What keeps a file from being read: access is denied beforehand, or
reading it fails. -/
inductive Fault where
  | unreadable
  | permission
  | inputOutput
deriving DecidableEq, Repr

/-- The system refuses to look a path up because a name in it is too long. -/
structure Refusal where
  path : Path
deriving DecidableEq, Repr

/-- The wording of a system error about a path. -/
def systemMessage (number : Nat) (text : String) (path : Path) : String :=
  "[Errno " ++ toString number ++ "] " ++ text ++ ": " ++ Text.quoted (toString path)

/-- The wording of a refusal. -/
def Refusal.message (r : Refusal) : String := systemMessage 36 "File name too long" r.path

end Disk

/-- The names that lead from the root to a place. -/
abbrev Disk.Place := List String

/-- The working directory, the entries by their places, and the faults by the
paths that meet them. -/
structure Disk where
  workDirectory : Disk.Place := []
  entries : List (Disk.Place × Disk.Entry) := []
  faults : List (Path × Disk.Fault) := []
deriving DecidableEq, Repr

namespace Disk

/-! ## Looking up -/

/-- What stands at a place.  The working directory is always there. -/
def entryAt? (d : Disk) (place : Place) : Option Entry :=
  if place.isPrefixOf d.workDirectory then some .directory else d.entries.lookup place

/-- The most bytes that one component of a path may have. -/
def maxNameBytes : Nat := 255

/-- The most bytes that a whole path may have. -/
def maxPathBytes : Nat := 4095

/-- Follow components from a place.  The first that cannot be followed
decides: a component behind something that is no directory leads nowhere, a
name that is too long is refused. -/
def walk (d : Disk) (path : Path) (place : Place) : List String → Except Refusal (Option Entry)
  | [] => .ok (d.entryAt? place)
  | part :: rest =>
    match d.entryAt? place with
    | some .directory =>
      if part = ".." then d.walk path place.dropLast rest
      else if maxNameBytes < part.utf8ByteSize then .error ⟨path⟩
      else d.walk path (place ++ [part]) rest
    | _ => .ok none

/-- Where a path starts. -/
def start (d : Disk) (path : Path) : Place :=
  if path.root = .relative then d.workDirectory else []

/-- What stands at a path.  A path with a NUL character leads nowhere. -/
def lookup (d : Disk) (path : Path) : Except Refusal (Option Entry) :=
  let text := toString path
  if text.toList.contains '\x00' then .ok none
  else if maxPathBytes < text.utf8ByteSize then .error ⟨path⟩
  else d.walk path (d.start path) path.parts

/-- The place that a path means if every component leads on: two dots cancel
the component before them, and there is nothing above the root. -/
def place (d : Disk) (path : Path) : Place :=
  path.parts.foldl (fun above part => if part = ".." then above.dropLast else above ++ [part])
    (d.start path)

/-- The fault that reading along a path meets. -/
def faultAt? (d : Disk) (path : Path) : Option Fault := d.faults.lookup path

/-- Does a path lead to something? -/
def isPresent (d : Disk) (path : Path) : Bool :=
  match d.lookup path with
  | .ok (some _) => true
  | _ => false

/-! ## Changing -/

/-- A change of what stands at a path. -/
inductive Change where
  | write (bytes : List UInt8)
  | makeDirectory
  | remove
  | fault (kind : Fault)
deriving DecidableEq, Repr

/-- Put an entry in its place. -/
def setEntry (d : Disk) (place : Place) (entry : Entry) : Disk :=
  { d with entries := (place, entry) :: d.entries.filter fun e => e.1 != place }

/-- Make a directory at a place where nothing stands yet. -/
def makeDirectoryAt (d : Disk) (place : Place) : Disk :=
  if (d.entryAt? place).isSome then d else d.setEntry place .directory

/-- Make every directory on the way along a path, also those that two dots
leave again. -/
def makeWay (d : Disk) (path : Path) : Disk :=
  (List.range path.parts.length).foldl (fun d n =>
    d.makeDirectoryAt (d.place { path with parts := path.parts.take n })) d

/-- Take away what a path leads to, with everything below it and the faults
there.  Where the path leads nowhere, nothing is taken away. -/
def removeAt (d : Disk) (path : Path) : Disk :=
  if d.isPresent path then
    { d with
      entries := d.entries.filter fun e => !(d.place path).isPrefixOf e.1
      faults := d.faults.filter fun f => !f.1.isWithin path }
  else d

/-- Let a path meet a fault, in place of the one that it has met so far. -/
def setFault (d : Disk) (path : Path) (kind : Fault) : Disk :=
  { d with faults := (path, kind) :: d.faults.filter fun f => f.1 != path }

/-- Apply a change at a path.  Writing makes the directories on the way and
leaves the faults as they are. -/
def apply (d : Disk) (path : Path) : Change → Disk
  | .write bytes => (d.makeWay path).setEntry (d.place path) (.file bytes)
  | .makeDirectory => (d.makeWay path).setEntry (d.place path) .directory
  | .remove => d.removeAt path
  | .fault kind => d.setFault path kind

/-- Apply changes one after the other. -/
def applyAll (d : Disk) (changes : List (Path × Change)) : Disk :=
  changes.foldl (fun d c => d.apply c.1 c.2) d

end Disk
end MakeTools
