/-!
# MakeTools.Path

File paths: a root marker and a list of components.

Empty components and single dots say nothing and are dropped when a path is
read; two dots are kept.  A path without components and without a root is
written as a single dot.  Exactly two slashes in front are a root of their
own; one slash, or three and more, are the ordinary root.
-/

namespace MakeTools

/-- Where a path starts. -/
inductive Path.Root where
  | relative
  | absolute
  | doubleSlash
deriving DecidableEq, Repr

/-- A path: its start and its components. -/
structure Path where
  root : Path.Root := .relative
  parts : List String
deriving DecidableEq, Repr

namespace Path

/-- The slashes in front of a path with this start. -/
def Root.text : Root → String
  | .relative => ""
  | .absolute => "/"
  | .doubleSlash => "//"

/-- The start of a path with so many slashes in front. -/
def Root.ofSlashes : Nat → Root
  | 0 => .relative
  | 2 => .doubleSlash
  | _ => .absolute

/-- The components of a path text. -/
def partsOf (s : List Char) : List String :=
  ((s.splitOn '/').map String.ofList).filter fun part => part != "" && part != "."

/-- Read a path. -/
def ofString (s : String) : Path :=
  let slashes := s.toList.takeWhile (· == '/')
  ⟨Root.ofSlashes slashes.length, partsOf s.toList⟩

/-- Write a path. -/
def toString (p : Path) : String :=
  match p.root, p.parts with
  | .relative, [] => "."
  | root, parts => root.text ++ "/".intercalate parts

instance : ToString Path := ⟨toString⟩

/-- The directory that holds a path.  A path without components is its own
parent. -/
def parent (p : Path) : Path := { p with parts := p.parts.dropLast }

/-- The path of an entry of a directory. -/
def child (p : Path) (name : String) : Path := { p with parts := p.parts ++ [name] }

/-- Is a path, as it is written, another one or a continuation of it? -/
def isWithin (p above : Path) : Bool :=
  p.root == above.root && above.parts.isPrefixOf p.parts

end Path
end MakeTools
