import Mathlib.Data.List.Nodup
import MakeTools.Tool
import MakeTools.Proofs.Appending
import MakeTools.Proofs.Variables

/-!
# MakeTools.Proofs.Schemas

The schema of a target, and the variables that it is made of.

The variables of a target have distinct names.  Each of them therefore becomes
an argument of its own, in order (`Table.ofSettings_of_nodup`), and `args` comes
last or takes the place of a variable of that name (`Schema.names_ofTarget`).

A name is required exactly if its variable is (`Target.mem_requiredNames_iff`).
What is known of a variable tells when that is so: there is no default, and the
recipe refers to it.  A variable without a default that is not required is
therefore one that the recipe only tests for.
-/

namespace MakeTools

open Text Line

/-! ## Tables of distinct names -/

namespace Table

variable {α : Type} {t : Table α} {name : String} {value : α}

theorem put_of_not_mem (h : name ∉ t.names) (value : α) :
    t.put name value = t ++ [(name, value)] := by
  induction t with
  | nil => rfl
  | cons entry t ih =>
      obtain ⟨he, ht⟩ : name ≠ entry.1 ∧ name ∉ names t := by simpa [names] using h
      rw [put, if_neg he.symm, ih ht, List.cons_append]

/-- Settings of distinct names are a table as they stand. -/
theorem ofSettings_of_nodup {settings : List (String × α)}
    (h : (settings.map Prod.fst).Nodup) : ofSettings settings = settings := by
  induction settings using List.reverseRecOn with
  | nil => rfl
  | append_singleton settings s ih =>
      rw [List.map_append, List.nodup_append] at h
      obtain ⟨hs, -, hd⟩ := h
      have hn : s.1 ∉ names settings := fun hm => hd s.1 hm s.1 (by simp) rfl
      rw [ofSettings_concat, ih hs, put_of_not_mem hn]

theorem get?_of_mem (hn : t.names.Nodup) (h : (name, value) ∈ t) : t.get? name = some value := by
  induction t with
  | nil => exact absurd h List.not_mem_nil
  | cons entry t ih =>
      obtain ⟨hm, ht⟩ := List.nodup_cons.1 hn
      cases List.mem_cons.1 h with
      | inl he => simp [get?, ← he]
      | inr h =>
          have hk : name ∈ names t := List.mem_map_of_mem h
          have hne : (name == entry.1) = false := by
            rw [beq_eq_false_iff_ne]
            exact fun he => hm (he ▸ hk)
          have hrest : t.lookup name = some value := ih ht h
          rw [get?, List.lookup_cons, hne, hrest]

end Table

/-! ## One argument -/

/-- An argument tells what is known of a variable. -/
structure Property.Tells (p : Property) (v : Variable) : Prop where
  default : p.default = v.default
  description : ∀ text, v.description = some text → text ≠ "" → p.description = text
  undescribed : (∀ text, v.description = some text → text = "") →
    p.description = "Value for " ++ v.name

theorem Property.tells_ofVariable (v : Variable) : (Property.ofVariable v).Tells v where
  default := rfl
  description := by
    intro text hd hne
    simp only [ofVariable, hd]
  undescribed := by
    intro hd
    cases hv : v.description with
    | none => simp only [ofVariable, hv]
    | some text =>
        obtain rfl := hd text hv
        simp only [ofVariable, hv]

/-! ## All arguments -/

section Arguments

variable {t : Target}

namespace Schema

theorem properties_ofTarget (h : (t.mentions.map (·.name)).Nodup) :
    (ofTarget t).properties =
      Table.put (t.mentions.map fun v => (v.name, Property.ofVariable v)) rawArgsName .rawArgs := by
  rw [ofTarget, Table.ofSettings_of_nodup]
  rwa [List.map_map]

/-- The arguments are named after the variables, in order, and `args` comes
last if no variable has this name. -/
theorem names_ofTarget (h : (t.mentions.map (·.name)).Nodup) :
    (ofTarget t).properties.names =
      if rawArgsName ∈ t.mentions.map (·.name) then t.mentions.map (·.name)
      else t.mentions.map (·.name) ++ [rawArgsName] := by
  have hnames : Table.names (t.mentions.map fun v => (v.name, Property.ofVariable v)) =
      t.mentions.map (·.name) := List.map_map
  rw [properties_ofTarget h, Table.names_put, hnames]

theorem nodup_names_ofTarget (t : Target) : (ofTarget t).properties.names.Nodup :=
  Table.nodup_names_put (Table.nodup_names_ofSettings _) _ _

theorem mem_names_ofTarget_iff (h : (t.mentions.map (·.name)).Nodup) {name : String} :
    name ∈ (ofTarget t).properties.names ↔
      name ∈ t.mentions.map (·.name) ∨ name = rawArgsName := by
  rw [names_ofTarget h]
  split
  · next hm =>
    constructor
    · exact .inl
    · intro hn
      cases hn with
      | inl hn => exact hn
      | inr hn => exact hn ▸ hm
  · rw [List.mem_append, List.mem_singleton]

/-- A variable with another name than `args` has an argument of its own. -/
theorem get?_ofTarget (h : (t.mentions.map (·.name)).Nodup) {v : Variable}
    (hv : v ∈ t.mentions) (hne : v.name ≠ rawArgsName) :
    (ofTarget t).properties.get? v.name = some (.ofVariable v) := by
  rw [properties_ofTarget h, Table.get?_put_of_ne _ _ hne]
  refine Table.get?_of_mem ?_ (List.mem_map_of_mem hv)
  rwa [Table.names, List.map_map]

theorem get?_rawArgs_ofTarget (t : Target) :
    (ofTarget t).properties.get? rawArgsName = some .rawArgs :=
  Table.get?_put_self _ _ _

end Schema

namespace Target

theorem nodup_requiredNames (h : (t.mentions.map (·.name)).Nodup) : t.requiredNames.Nodup :=
  (List.filter_sublist.map _).nodup h

theorem mem_requiredNames_iff (h : (t.mentions.map (·.name)).Nodup) {v : Variable}
    (hv : v ∈ t.mentions) : v.name ∈ t.requiredNames ↔ v.required = true := by
  constructor
  · intro hm
    obtain ⟨u, hu, he⟩ := List.mem_map.1 hm
    obtain ⟨hu, hr⟩ := List.mem_filter.1 hu
    rwa [← List.inj_on_of_nodup_map h hu hv he]
  · intro hr
    exact List.mem_map_of_mem (List.mem_filter.2 ⟨hv, hr⟩)

end Target

end Arguments

/-! ## Records -/

/-- A name that a recipe mentions but does not refer to is tested for. -/
theorem Recipe.exists_testsAt_of_mem_mentioned {recipe : List Line} {name : String}
    (hm : name ∈ mentioned recipe) (hr : name ∉ referred recipe) :
    ∃ i j, TestsAt (unlines recipe) i j name := by
  rw [mentioned, List.mem_eraseDups, List.mem_append] at hm
  exact (successive_tests _).exists_testsAt (hm.resolve_left hr)

namespace Catalog

variable {window : Int} {path : Path} {text : String} {t : Target}

theorem nodup_map_name_mentions (h : t ∈ (ofText window path text).targets) :
    (t.mentions.map (·.name)).Nodup := by
  rw [map_name_mentions h]
  exact Recipe.nodup_eraseDups _

/-- A variable that is optional and has no default is one that the recipe only
tests for. -/
theorem tested_of_optional (h : t ∈ (ofText window path text).targets) {v : Variable}
    (hv : v ∈ t.mentions) (hr : ¬ v.required = true) (hd : v.default = none) :
    let recipe := unlines (Recipe.block (lines text.toList) t.name)
    (∃ i j, Recipe.TestsAt recipe i j v.name) ∧ ∀ i, ¬ Recipe.RefersAt recipe i v.name := by
  have hdescribes := describes_of_mem_mentions h hv
  have hno : v.name ∉ Recipe.referred (Recipe.block (lines text.toList) t.name) :=
    fun hm => hr (hdescribes.required.2 ⟨hm, hdescribes.default_none.1 hd⟩)
  have hmentioned : v.name ∈ Recipe.mentioned (Recipe.block (lines text.toList) t.name) := by
    rw [← map_name_mentions h]
    exact List.mem_map_of_mem hv
  constructor
  · exact Recipe.exists_testsAt_of_mem_mentioned hmentioned hno
  · intro i hi
    exact hno (Recipe.mem_references_iff.2 ⟨i, hi⟩)

/-- **The schema of a target is coherent**: its arguments have distinct names,
those of the variables and `args`.  The required ones are those of the required
variables, in order and without repetition, and each of them is an argument.
The argument of a variable with another name than `args` has the default of the
variable and its description, if there is one.  No such argument is required
and has a default, and one that neither is required nor has a default comes of
a variable that the recipe tests for and nowhere refers to. -/
theorem schema_coherent (h : t ∈ (ofText window path text).targets) :
    let schema := Schema.ofTarget t
    let recipe := unlines (Recipe.block (lines text.toList) t.name)
    schema.properties.names.Nodup ∧
      (∀ name, name ∈ schema.properties.names ↔
        name ∈ t.mentions.map (·.name) ∨ name = rawArgsName) ∧
      schema.required = (t.mentions.filter (·.required)).map (·.name) ∧
      schema.required.Nodup ∧
      (∀ name ∈ schema.required, name ∈ schema.properties.names) ∧
      schema.properties.get? rawArgsName = some .rawArgs ∧
      ∀ v ∈ t.mentions, v.name ≠ rawArgsName →
        ∃ p, schema.properties.get? v.name = some p ∧ p.Tells v ∧
          (v.name ∈ schema.required → p.default = none) ∧
          (v.name ∉ schema.required → p.default = none →
            (∃ i j, Recipe.TestsAt recipe i j v.name) ∧
              ∀ i, ¬ Recipe.RefersAt recipe i v.name) := by
  intro schema recipe
  have hn := nodup_map_name_mentions h
  have hnames : ∀ name, name ∈ schema.properties.names ↔
      name ∈ t.mentions.map (·.name) ∨ name = rawArgsName :=
    fun name => Schema.mem_names_ofTarget_iff hn
  refine ⟨Schema.nodup_names_ofTarget t, hnames, rfl, Target.nodup_requiredNames hn, ?_,
    Schema.get?_rawArgs_ofTarget t, ?_⟩
  · intro name hm
    exact (hnames name).2 (.inl ((List.filter_sublist.map _).subset hm))
  · intro v hv hne
    refine ⟨_, Schema.get?_ofTarget hn hv hne, Property.tells_ofVariable v, ?_, ?_⟩
    · intro hm
      have hr := (Target.mem_requiredNames_iff hn hv).1 hm
      exact ((describes_of_mem_mentions h hv).eq_none_of_required hr).1
    · intro hm hd
      exact tested_of_optional h hv (fun hr => hm ((Target.mem_requiredNames_iff hn hv).2 hr)) hd

/-- A recipe that refers to `args` and to a variable with a value, and that
tests for a third. -/
theorem schema_coherent_of_rawArgs_mentioned :
    ∃ t ∈ (ofText 4 ⟨.relative, ["Makefile"]⟩
        "# How\nM = a\nrun:\n\t$(args) $(X) $(M)\nifdef D\n").targets,
      let schema := Schema.ofTarget t
      schema.properties.names = ["args", "X", "M", "D"] ∧ schema.required = ["args", "X"] ∧
      schema.properties.names.Nodup ∧ schema.properties.get? rawArgsName = some .rawArgs ∧
      (∃ p, schema.properties.get? "M" = some p ∧ p.Tells ⟨"M", some "a", false, some "How"⟩) ∧
      ∃ i j, Recipe.TestsAt (unlines (Recipe.block
        (lines "# How\nM = a\nrun:\n\t$(args) $(X) $(M)\nifdef D\n".toList) t.name)) i j "D" := by
  obtain ⟨t, ht, hm⟩ : ∃ t ∈ (ofText 4 ⟨.relative, ["Makefile"]⟩
      "# How\nM = a\nrun:\n\t$(args) $(X) $(M)\nifdef D\n").targets,
      t.mentions = [⟨"args", none, true, none⟩, ⟨"X", none, true, none⟩,
        ⟨"M", some "a", false, some "How"⟩, ⟨"D", none, false, none⟩] := by decide +kernel
  obtain ⟨hnodup, -, hreq, -, -, hraw, hvars⟩ := schema_coherent ht
  have hnames : (Schema.ofTarget t).properties.names = ["args", "X", "M", "D"] := by
    rw [Schema.names_ofTarget (nodup_map_name_mentions ht), hm]
    decide
  have hrequired : (Schema.ofTarget t).required = ["args", "X"] := by
    rw [hreq, hm]
    decide
  obtain ⟨p, hp, htells, -, -⟩ := hvars ⟨"M", some "a", false, some "How"⟩ (by simp [hm])
    (by decide)
  obtain ⟨q, -, hq, -, htested⟩ := hvars ⟨"D", none, false, none⟩ (by simp [hm]) (by decide)
  obtain ⟨htest, -⟩ := htested (by rw [hrequired]; decide) hq.default
  exact ⟨t, ht, hnames, hrequired, hnodup, hraw, ⟨p, hp, htells⟩, htest⟩

end Catalog

end MakeTools
