import MakeTools.Path
import MakeTools.Table

/-!
# MakeTools.Catalog.Basic

What is known of one Makefile: its targets, each with the variables that its
recipe mentions, and the table of its assignments.

A name may be declared more than once.  The catalog keeps every declaration;
looking a target up finds the first.
-/

namespace MakeTools

/-- A variable that a recipe mentions. -/
structure Variable where
  name : String
  /-- The value that the Makefile assigns. -/
  default : Option String := none
  /-- Does a caller have to supply a value? -/
  required : Bool := true
  description : Option String := none
deriving DecidableEq, Repr

/-- A target as one line declares it. -/
structure Target where
  name : String
  description : String
  dependencies : List String := []
  /-- The variables that the recipe mentions. -/
  mentions : List Variable := []
  usageHint : Option String := none
  isPhony : Bool := false
deriving DecidableEq, Repr

/-- Everything read from one Makefile. -/
structure Catalog where
  path : Path
  targets : List Target := []
  /-- The assignments; the last value given to a name counts. -/
  assigned : Table String := []
deriving DecidableEq, Repr

namespace Target

/-- The variable of this name. -/
def findVariable? (t : Target) (name : String) : Option Variable :=
  t.mentions.find? (·.name == name)

/-- The names of the variables that a caller has to supply. -/
def requiredNames (t : Target) : List String :=
  (t.mentions.filter (·.required)).map (·.name)

end Target

namespace Catalog

/-- The first declaration of a name. -/
def find? (c : Catalog) (name : String) : Option Target :=
  c.targets.find? (·.name == name)

/-- The declared names, each once, in the order of first declaration. -/
def names (c : Catalog) : List String := (c.targets.map (·.name)).eraseDups

/-- A name is listed exactly if a declaration has it. -/
theorem mem_names {c : Catalog} {name : String} :
    name ∈ c.names ↔ ∃ t ∈ c.targets, t.name = name := by
  simp [names, List.mem_eraseDups]

/-- A name can be looked up exactly if it is listed. -/
theorem isSome_find? {c : Catalog} {name : String} :
    (c.find? name).isSome ↔ name ∈ c.names := by
  simp [find?, mem_names]

end Catalog
end MakeTools
