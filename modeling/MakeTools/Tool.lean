import MakeTools.Catalog.Basic
import MakeTools.Value

/-!
# MakeTools.Tool

Targets as tools: a name, a description, and a schema of the arguments.

Every argument is a text.  There is one for each variable that the recipe
mentions, and one more, `args`, for raw arguments; it replaces a variable of
that name but keeps its place.
-/

namespace MakeTools

/-- One argument of a tool. -/
structure Property where
  description : String
  default : Option String := none
deriving DecidableEq, Repr

/-- The arguments of a tool, and the names that have to be given. -/
structure Schema where
  properties : Table Property
  required : List String
deriving DecidableEq, Repr

/-- A tool. -/
structure Tool where
  name : String
  description : String
  schema : Schema
deriving DecidableEq, Repr

/-- The argument that holds raw arguments. -/
def rawArgsName : String := "args"

/-- The argument that a variable becomes.  An empty description says
nothing. -/
def Property.ofVariable (v : Variable) : Property where
  description := match v.description with
    | none | some "" => "Value for " ++ v.name
    | some text => text
  default := v.default

/-- The argument for raw arguments. -/
def Property.rawArgs : Property := ⟨"Additional raw arguments to pass to make", none⟩

/-- The schema of a target's arguments. -/
def Schema.ofTarget (t : Target) : Schema where
  properties :=
    (Table.ofSettings (t.mentions.map fun v => (v.name, Property.ofVariable v))).put
      rawArgsName .rawArgs
  required := t.requiredNames

/-- What is wrong with the arguments of a call. -/
inductive Schema.Complaint where
  | missing (name : String)
  | notText (value : Value)

/-- The wording of a complaint. -/
def Schema.Complaint.message : Schema.Complaint → String
  | .missing name => "Input validation error: " ++ Text.quoted name ++ " is a required property"
  | .notText value => "Input validation error: " ++ value.inner ++ " is not of type 'string'"

/-- The first complaint about arguments: a required name that is missing, or
else a listed argument that is no text.  Arguments that are not listed are not
looked at. -/
def Schema.check (schema : Schema) (arguments : List (String × Value)) : Option Complaint :=
  match schema.required.find? fun name => (arguments.lookup name).isNone with
  | some name => some (.missing name)
  | none =>
    schema.properties.names.findSome? fun name =>
      (arguments.lookup name).bind fun value =>
        if value.isText then none else some (.notText value)

/-- The name of the tool that runs a target. -/
def Target.toolName (t : Target) (toolPrefix : String) : String := toolPrefix ++ t.name

/-- How a tool's name starts, if nothing else is said. -/
def Tool.defaultPrefix : String := "make_"

/-- The description of the tool that runs a target: the target's own, the
usage hint on the line below it, and the dependencies in brackets. -/
def Target.toolDescription (t : Target) : String :=
  let hint := match t.usageHint with
    | none | some "" => ""
    | some text => "\n" ++ text
  let dependencies :=
    if t.dependencies.isEmpty then ""
    else " (depends on: " ++ ", ".intercalate t.dependencies ++ ")"
  t.description ++ hint ++ dependencies

/-- A tool's description is that of its target, and behind it stand a hint and
dependencies: the hint on a new line, if there is one that says something, and
all the dependencies in order, if there are any. -/
theorem Target.toolDescription_eq_append (t : Target) :
    ∃ hint dependencies, t.toolDescription = t.description ++ hint ++ dependencies ∧
      (∀ text, t.usageHint = some text → text ≠ "" → hint = "\n" ++ text) ∧
      ((∀ text, t.usageHint = some text → text = "") → hint = "") ∧
      (t.dependencies ≠ [] →
        dependencies = " (depends on: " ++ ", ".intercalate t.dependencies ++ ")") ∧
      (t.dependencies = [] → dependencies = "") := by
  refine ⟨_, _, rfl, ?_, ?_, ?_, ?_⟩
  · intro text ht hne
    rw [ht]
    split
    · contradiction
    · next h => exact absurd (Option.some.inj h) hne
    · next h => rw [Option.some.inj h]
  · intro h
    split
    · rfl
    · rfl
    · next text hne ht => exact absurd (h text ht) hne
  · intro h
    rw [if_neg (by simpa using h)]
  · intro h
    rw [h, List.isEmpty_nil, if_pos rfl]

/-- The tool that runs a target. -/
def Tool.ofTarget (toolPrefix : String) (t : Target) : Tool where
  name := t.toolName toolPrefix
  description := t.toolDescription
  schema := .ofTarget t

end MakeTools
