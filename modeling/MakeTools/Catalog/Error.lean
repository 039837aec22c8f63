import MakeTools.Value

/-!
# MakeTools.Catalog.Error

What can be wrong with a Makefile or with a target that is asked for, and the
wording.
-/

namespace MakeTools.Catalog

/-- An error about a Makefile, given by its path, or about a target, or a
general one with details. -/
inductive Error where
  | general (details : List Value)
  | missing (path : String)
  | unreadable (path : String) (reason : String)
  | unknownTarget (target : String) (available : Option (List String))

/-- The wording of an error.  A single detail stands for itself, several are
listed as they stand inside another value.  If no name is available, or only an
empty one, that is said. -/
def Error.message : Error → String
  | .general [] => ""
  | .general [detail] => detail.render
  | .general details => "(" ++ ", ".intercalate (Value.innerItems details) ++ ")"
  | .missing path => "Makefile not found: " ++ path
  | .unreadable path reason => "Failed to parse " ++ path ++ ": " ++ reason
  | .unknownTarget target none => "Target '" ++ target ++ "' not found in Makefile"
  | .unknownTarget target (some available) =>
    let listed := ", ".intercalate available
    "Target '" ++ target ++ "' not found in Makefile. Available targets: "
      ++ if listed.isEmpty then "none" else listed

end MakeTools.Catalog
