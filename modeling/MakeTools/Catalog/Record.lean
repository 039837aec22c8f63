import MakeTools.Catalog.Basic
import MakeTools.Value.Same

/-!
# MakeTools.Catalog.Record

Targets and variables as records with named fields, for storing and sending.

Writing gives every field, in a fixed order.  Reading asks for the names that
a target or variable cannot do without, takes the usual value for any other
field that is missing, and passes over fields that it does not know.  What a
field holds is kept as it is; only a record whose fields hold what they should
is that of a target or variable.
-/

namespace MakeTools

/-- What is wrong with a record. -/
inductive RecordError where
  | missing (field : String)
  /-- The value is no record. -/
  | notARecord (v : Value)
  /-- The value is no sequence. -/
  | notASequence (v : Value)
  | unfit (field : String)

/-- The wording of an error.  A missing field is told by its quoted name. -/
def RecordError.message : RecordError → String
  | .missing field => Text.quoted field
  | .notARecord (.text _) => "string indices must be integers, not 'str'"
  | .notARecord (.list _) => "list indices must be integers or slices, not str"
  | .notARecord v => Text.quoted v.kindName ++ " object is not subscriptable"
  | .notASequence v => Text.quoted v.kindName ++ " object is not iterable"
  | .unfit field => "unfit value for " ++ Text.quoted field

/-! ## Fields -/

namespace Value

/-- The field of a record. -/
def field? (v : Value) (name : String) : Option Value :=
  match v with
  | .record fields => fields.lookup name
  | _ => none

/-- A field that has to be there. -/
def needed (v : Value) (name : String) : Except RecordError Value :=
  match v with
  | .record fields =>
    match fields.lookup name with
    | some value => .ok value
    | none => .error (.missing name)
  | v => .error (.notARecord v)

/-- The items of a sequence: those of a list, the characters of a text, the
names of a record. -/
def items : Value → Except RecordError (List Value)
  | .list items => .ok items
  | .text s => .ok (s.toList.map fun c => .text (String.ofList [c]))
  | .record fields => .ok (fields.map fun f => .text f.1)
  | v => .error (.notASequence v)

/-- The items of a field that is a sequence, none if it is missing. -/
def fieldItems (v : Value) (name : String) : Except RecordError (List Value) :=
  match v.field? name with
  | some value => value.items
  | none => .ok []

/-- The value as a text. -/
def asText (name : String) : Value → Except RecordError String
  | .text s => .ok s
  | _ => .error (.unfit name)

/-- The value as a text or as nothing. -/
def asOptionalText (name : String) : Value → Except RecordError (Option String)
  | .null => .ok none
  | .text s => .ok (some s)
  | _ => .error (.unfit name)

/-- A text that may be nothing. -/
def ofOptionalText : Option String → Value
  | none => .null
  | some s => .text s

end Value

/-- Read every item of a list, in order. -/
def readAll {α β : Type} (read : α → Except RecordError β) : List α → Except RecordError (List β)
  | [] => .ok []
  | a :: as =>
    match read a with
    | .error e => .error e
    | .ok b => (readAll read as).map (b :: ·)

/-- Reading what was written gives it back, item by item. -/
theorem readAll_map {α β : Type} {read : α → Except RecordError β} {write : β → α}
    (h : ∀ b, read (write b) = .ok b) (bs : List β) : readAll read (bs.map write) = .ok bs := by
  induction bs with
  | nil => rfl
  | cons b bs ih => simp [readAll, h, ih, Except.map]

/-! ## Variables -/

/-- The record of a variable. -/
structure VariableRecord where
  name : Value
  default : Value := .null
  required : Value := .bool true
  description : Value := .null

namespace VariableRecord

/-- Write a record. -/
def toValue (r : VariableRecord) : Value :=
  .record
    [("name", r.name), ("default", r.default), ("required", r.required),
      ("description", r.description)]

/-- Read a record. -/
def ofValue? (v : Value) : Except RecordError VariableRecord :=
  (v.needed "name").map fun name =>
    { name
      default := (v.field? "default").getD .null
      required := (v.field? "required").getD (.bool true)
      description := (v.field? "description").getD .null }

/-- Reading what was written gives the record back. -/
@[simp] theorem ofValue?_toValue (r : VariableRecord) : ofValue? r.toValue = .ok r := rfl

/-- The variable of a record.  It is required if its field stands for
something. -/
def toVariable? (r : VariableRecord) : Except RecordError Variable := do
  let name ← r.name.asText "name"
  let default ← r.default.asOptionalText "default"
  let description ← r.description.asOptionalText "description"
  return { name, default, required := !r.required.isVoid, description }

/-- Do two records say the same? -/
def same (r s : VariableRecord) : Bool :=
  r.name.same s.name && r.default.same s.default && r.required.same s.required
    && r.description.same s.description

end VariableRecord

/-- The record of a variable. -/
def Variable.toRecord (v : Variable) : VariableRecord where
  name := .text v.name
  default := .ofOptionalText v.default
  required := .bool v.required
  description := .ofOptionalText v.description

/-- Write a variable. -/
def Variable.toValue (v : Variable) : Value := v.toRecord.toValue

/-- Read a variable. -/
def Variable.ofValue? (v : Value) : Except RecordError Variable := do
  (← VariableRecord.ofValue? v).toVariable?

/-! ## Targets -/

/-- The record of a target. -/
structure TargetRecord where
  name : Value
  description : Value
  dependencies : List Value := []
  mentions : List VariableRecord := []
  usageHint : Value := .null
  isPhony : Value := .bool false

namespace TargetRecord

/-- Write a record. -/
def toValue (r : TargetRecord) : Value :=
  .record
    [("name", r.name), ("description", r.description), ("dependencies", .list r.dependencies),
      ("variables", .list (r.mentions.map VariableRecord.toValue)), ("usage_hint", r.usageHint),
      ("is_phony", r.isPhony)]

/-- Read a record.  The first thing that is wrong with it is told, in the order
of the fields. -/
def ofValue? (v : Value) : Except RecordError TargetRecord := do
  let name ← v.needed "name"
  let description ← v.needed "description"
  let dependencies ← v.fieldItems "dependencies"
  let mentions ← readAll VariableRecord.ofValue? (← v.fieldItems "variables")
  return {
    name, description, dependencies, mentions
    usageHint := (v.field? "usage_hint").getD .null
    isPhony := (v.field? "is_phony").getD (.bool false) }

/-- The target of a record.  It is phony if its field stands for something. -/
def toTarget? (r : TargetRecord) : Except RecordError Target := do
  let name ← r.name.asText "name"
  let description ← r.description.asText "description"
  let dependencies ← readAll (Value.asText "dependencies") r.dependencies
  let mentions ← readAll VariableRecord.toVariable? r.mentions
  let usageHint ← r.usageHint.asOptionalText "usage_hint"
  return { name, description, dependencies, mentions, usageHint, isPhony := !r.isPhony.isVoid }

/-- Are two lists the same, item by item? -/
def sameAll {α : Type} (same : α → α → Bool) : List α → List α → Bool
  | [], [] => true
  | a :: as, b :: bs => same a b && sameAll same as bs
  | _, _ => false

/-- Do two records say the same? -/
def same (r s : TargetRecord) : Bool :=
  r.name.same s.name && r.description.same s.description
    && sameAll Value.same r.dependencies s.dependencies
    && sameAll VariableRecord.same r.mentions s.mentions
    && r.usageHint.same s.usageHint && r.isPhony.same s.isPhony

end TargetRecord

/-- The record of a target. -/
def Target.toRecord (t : Target) : TargetRecord where
  name := .text t.name
  description := .text t.description
  dependencies := t.dependencies.map .text
  mentions := t.mentions.map Variable.toRecord
  usageHint := .ofOptionalText t.usageHint
  isPhony := .bool t.isPhony

/-- Write a target. -/
def Target.toValue (t : Target) : Value := t.toRecord.toValue

/-- Read a target. -/
def Target.ofValue? (v : Value) : Except RecordError Target := do
  (← TargetRecord.ofValue? v).toTarget?

end MakeTools
