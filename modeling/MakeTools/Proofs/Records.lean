import Mathlib.Data.List.Forall2
import MakeTools.Catalog.Record

/-!
# MakeTools.Proofs.Records

Records of targets: what is written is read back, and what is read is written
in one form.

A record is read field by field (`ofValue?_eq_ok_iff`).  The fields that a
target or variable cannot do without have to stand there, any other field is
the one that stands there or the usual one, and fields that are not known make
no difference.  Writing gives every field.  A record that was read and written
therefore says the same as the one that it came from, and it stays as it is
when it is read and written again (`rewritten_records_agree`).
-/

namespace MakeTools

/-! ## Fields -/

namespace Value

variable {v w : Value} {name : String}

theorem needed_eq_ok_iff : v.needed name = .ok w ↔ v.field? name = some w := by
  cases v with
  | record fields =>
      simp only [needed, field?]
      cases fields.lookup name <;> simp
  | _ => simp [needed, field?]

/-- A sequence that is missing is one without items. -/
theorem fieldItems_eq_items (v : Value) (name : String) :
    v.fieldItems name = ((v.field? name).getD (.list [])).items := by
  unfold fieldItems
  cases v.field? name <;> rfl

theorem asOptionalText_ofOptionalText (name : String) (s : Option String) :
    (ofOptionalText s).asOptionalText name = .ok s := by
  cases s <;> rfl

end Value

/-- The items that are read are those that each item gives, in order. -/
theorem readAll_eq_ok_iff {α β : Type} {read : α → Except RecordError β} {as : List α}
    {bs : List β} : readAll read as = .ok bs ↔ List.Forall₂ (fun b a => read a = .ok b) bs as := by
  induction as generalizing bs with
  | nil => simp [readAll, eq_comm]
  | cons a as ih =>
      cases ha : read a with
      | error e =>
          simp only [readAll, ha, List.forall₂_cons_right_iff]
          simp
      | ok b =>
          simp only [readAll, ha, List.forall₂_cons_right_iff, ← ih, Except.ok.injEq]
          cases readAll read as <;> simp [Except.map, eq_comm]

theorem bind_eq_ok_iff {ε α β : Type} {x : Except ε α} {f : α → Except ε β} {b : β} :
    x >>= f = .ok b ↔ ∃ a, x = .ok a ∧ f a = .ok b := by
  cases x <;> simp [bind, Except.bind]

/-! ## Reading -/

/-- What a value says of a variable: its name, and every other field as it
stands there or the usual one. -/
structure VariableRecord.IsReadFrom (r : VariableRecord) (v : Value) : Prop where
  name : v.field? "name" = some r.name
  default : (v.field? "default").getD .null = r.default
  required : (v.field? "required").getD (.bool true) = r.required
  description : (v.field? "description").getD .null = r.description

/-- What a value says of a target: its name and description, and every other
field as it stands there or the usual one.  What stands for the variables is a
sequence of values that say something of variables. -/
structure TargetRecord.IsReadFrom (r : TargetRecord) (v : Value) : Prop where
  name : v.field? "name" = some r.name
  description : v.field? "description" = some r.description
  dependencies : ((v.field? "dependencies").getD (.list [])).items = .ok r.dependencies
  mentions : ∃ vs, ((v.field? "variables").getD (.list [])).items = .ok vs ∧
    List.Forall₂ VariableRecord.IsReadFrom r.mentions vs
  usageHint : (v.field? "usage_hint").getD .null = r.usageHint
  isPhony : (v.field? "is_phony").getD (.bool false) = r.isPhony

theorem VariableRecord.ofValue?_eq_ok_iff {v : Value} {r : VariableRecord} :
    ofValue? v = .ok r ↔ r.IsReadFrom v := by
  constructor
  · intro h
    unfold ofValue? at h
    cases hn : v.needed "name" with
    | error e => simp [hn, Except.map] at h
    | ok name =>
        rw [hn, Except.map, Except.ok.injEq] at h
        rw [← h]
        exact ⟨Value.needed_eq_ok_iff.1 hn, rfl, rfl, rfl⟩
  · rintro ⟨hname, hdefault, hrequired, hdescription⟩
    rw [ofValue?, Value.needed_eq_ok_iff.2 hname, hdefault, hrequired, hdescription]
    rfl

/-- A record of a target is read exactly if it says something of a target. -/
theorem TargetRecord.ofValue?_eq_ok_iff {v : Value} {r : TargetRecord} :
    ofValue? v = .ok r ↔ r.IsReadFrom v := by
  have hread : ∀ items, readAll VariableRecord.ofValue? items = .ok r.mentions ↔
      List.Forall₂ VariableRecord.IsReadFrom r.mentions items := by
    intro items
    simp only [readAll_eq_ok_iff, VariableRecord.ofValue?_eq_ok_iff]
  constructor
  · intro h
    obtain ⟨name, hname, h⟩ := bind_eq_ok_iff.1 h
    obtain ⟨description, hdescription, h⟩ := bind_eq_ok_iff.1 h
    obtain ⟨dependencies, hdependencies, h⟩ := bind_eq_ok_iff.1 h
    obtain ⟨items, hitems, h⟩ := bind_eq_ok_iff.1 h
    obtain ⟨mentions, hmentions, h⟩ := bind_eq_ok_iff.1 h
    obtain rfl := Except.ok.inj h
    rw [Value.fieldItems_eq_items] at hdependencies hitems
    exact { name := Value.needed_eq_ok_iff.1 hname
            description := Value.needed_eq_ok_iff.1 hdescription
            dependencies := hdependencies
            mentions := ⟨items, hitems, (hread items).1 hmentions⟩
            usageHint := rfl
            isPhony := rfl }
  · rintro ⟨hname, hdescription, hdependencies, ⟨items, hitems, hmentions⟩, hhint, hphony⟩
    rw [← Value.fieldItems_eq_items] at hdependencies hitems
    simp only [ofValue?, Value.needed_eq_ok_iff.2 hname, Value.needed_eq_ok_iff.2 hdescription,
      hdependencies, hitems, (hread items).2 hmentions, hhint, hphony, bind, Except.bind, pure,
      Except.pure]

/-! ## Writing and reading back -/

/-- Reading what was written gives the record back, whatever its fields hold. -/
theorem TargetRecord.ofValue?_toValue (r : TargetRecord) : ofValue? r.toValue = .ok r := by
  have hmentions : List.Forall₂ VariableRecord.IsReadFrom r.mentions
      (r.mentions.map VariableRecord.toValue) := by
    rw [List.forall₂_map_right_iff, List.forall₂_same]
    exact fun m _ => VariableRecord.ofValue?_eq_ok_iff.1 m.ofValue?_toValue
  rw [ofValue?_eq_ok_iff]
  exact { name := rfl
          description := rfl
          dependencies := rfl
          mentions := ⟨_, rfl, hmentions⟩
          usageHint := rfl
          isPhony := rfl }

theorem Variable.toVariable?_toRecord (v : Variable) : v.toRecord.toVariable? = .ok v := by
  simp only [toRecord, VariableRecord.toVariable?, Value.asText,
    Value.asOptionalText_ofOptionalText, Value.isVoid, Bool.not_not]
  rfl

theorem Target.toTarget?_toRecord (t : Target) : t.toRecord.toTarget? = .ok t := by
  have htext : ∀ s, Value.asText "dependencies" (.text s) = .ok s := fun _ => rfl
  have hdependencies : readAll (Value.asText "dependencies") (t.dependencies.map .text) =
      .ok t.dependencies := readAll_map htext _
  have hmentions : readAll VariableRecord.toVariable? (t.mentions.map Variable.toRecord) =
      .ok t.mentions := readAll_map Variable.toVariable?_toRecord _
  simp only [toRecord, TargetRecord.toTarget?, Value.asText, hdependencies, hmentions,
    Value.asOptionalText_ofOptionalText, Value.isVoid, Bool.not_not]
  rfl

theorem Target.ofValue?_toValue (t : Target) : ofValue? t.toValue = .ok t := by
  rw [ofValue?, toValue, TargetRecord.ofValue?_toValue]
  exact t.toTarget?_toRecord

/-! ## Writing what was read -/

/-- The record that a value is read as, written. -/
def TargetRecord.rewrite (v : Value) : Except RecordError Value := (ofValue? v).map toValue

theorem TargetRecord.rewrite_eq_ok_iff {v w : Value} :
    rewrite v = .ok w ↔ ∃ r, ofValue? v = .ok r ∧ r.toValue = w := by
  unfold rewrite
  cases ofValue? v <;> simp [Except.map]

/-- **Records are read as they were written**: every target is read back from its
record, by itself and among the targets of a catalog.  A value is read as a
record of a target exactly if it has the fields that a target cannot do without
and sequences where they belong; what it does not say is the usual, and what is
not known makes no difference.  What was read and then written says the same as
before, and to read and write it once more changes nothing. -/
theorem rewritten_records_agree :
    (∀ t : Target, TargetRecord.ofValue? t.toValue = .ok t.toRecord ∧
      Target.ofValue? t.toValue = .ok t) ∧
    (∀ c : Catalog, readAll Target.ofValue? (c.targets.map Target.toValue) = .ok c.targets) ∧
    (∀ (v : Value) (r : TargetRecord), TargetRecord.ofValue? v = .ok r ↔ r.IsReadFrom v) ∧
    ∀ v w : Value, TargetRecord.rewrite v = .ok w →
      TargetRecord.rewrite w = .ok w ∧ TargetRecord.ofValue? w = TargetRecord.ofValue? v := by
  refine ⟨fun t => ⟨TargetRecord.ofValue?_toValue _, Target.ofValue?_toValue t⟩,
    fun c => readAll_map Target.ofValue?_toValue c.targets,
    fun v r => TargetRecord.ofValue?_eq_ok_iff, fun v w h => ?_⟩
  obtain ⟨r, hr, rfl⟩ := TargetRecord.rewrite_eq_ok_iff.1 h
  have hagain : TargetRecord.ofValue? r.toValue = .ok r := r.ofValue?_toValue
  exact ⟨TargetRecord.rewrite_eq_ok_iff.2 ⟨r, hagain, rfl⟩, hagain.trans hr.symm⟩

/-- A field in another place, one that is not known, and a variable that says
nothing but its name. -/
theorem rewritten_records_agree_of_missing_fields :
    let v : Value := .record [("variables", .list [.record [("kind", .null), ("name", .text "CC")]]),
      ("line", .integer 3), ("description", .text ""), ("name", .text "all")]
    let w : Value := .record [("name", .text "all"), ("description", .text ""),
      ("dependencies", .list []),
      ("variables", .list [.record [("name", .text "CC"), ("default", .null),
        ("required", .bool true), ("description", .null)]]),
      ("usage_hint", .null), ("is_phony", .bool false)]
    TargetRecord.rewrite v = .ok w ∧ TargetRecord.rewrite w = .ok w ∧
      TargetRecord.ofValue? w = TargetRecord.ofValue? v := by
  intro v w
  have h : TargetRecord.rewrite v = .ok w := rfl
  obtain ⟨-, -, -, hrewrite⟩ := rewritten_records_agree
  exact ⟨h, hrewrite v w h⟩

end MakeTools
