import Mathlib.Data.List.Forall2
import Mathlib.Data.List.Induction
import MakeTools.Proofs.Blocks

/-!
# MakeTools.Proofs.Appending

What more text at the end of a Makefile can change.

Comments and usage hints are looked for above a declaration, recipes below it,
assignments and phony names everywhere.  More lines below therefore leave the
records of a text as they are but for what may come later: a name may become
phony, a variable may get a value, and a recipe may go on (`Target.Extended`).
A recipe that a line of the text ends is complete (`Recipe.IsClosed`); then its
variables stay the same, and none of them becomes required.

The table of the whole is that of the upper text with the entries of the lower
one written into it (`Table.update`, `assignments_append`).
-/

namespace MakeTools

open Text Line

/-! ## Tables -/

namespace Table

variable {α : Type} {t u : Table α} {name : String}

/-- Write the entries of one table into another.  A name that was there gets
its new value in its old place; new names go last, in order. -/
def update (t u : Table α) : Table α := u.foldl (fun t entry => t.put entry.1 entry.2) t

@[simp] theorem update_cons (t : Table α) (entry : String × α) (u : Table α) :
    t.update (entry :: u) = (t.put entry.1 entry.2).update u := rfl

theorem mem_names_put {other : String} {value : α} :
    other ∈ (t.put name value).names ↔ other ∈ t.names ∨ other = name := by
  rw [names_put]
  split
  · next h =>
    constructor
    · exact .inl
    · rintro (ho | rfl)
      · exact ho
      · exact h
  · rw [List.mem_append, List.mem_singleton]

/-- Of two values that a name is given in turn, the later one stays. -/
theorem put_put (t : Table α) (name : String) (old new : α) :
    (t.put name old).put name new = t.put name new := by
  induction t with
  | nil => simp [put]
  | cons entry t ih =>
      by_cases h : entry.1 = name
      · simp [put, h]
      · simp [put, h, ih]

/-- Settings of two names may be made in either order, once one of the names
has its place. -/
theorem put_comm {other : String} (hn : name ∈ t.names) (ho : other ≠ name) (value old : α) :
    (t.put other old).put name value = (t.put name value).put other old := by
  induction t with
  | nil => exact absurd hn List.not_mem_nil
  | cons entry t ih =>
      by_cases h : entry.1 = name
      · simp [put, h, ho.symm]
      · by_cases he : entry.1 = other
        · simp [put, he, ho]
        · have hm : name ∈ names t := (List.mem_cons.1 hn).resolve_left (Ne.symm h)
          simp [put, h, he, ih hm]

theorem put_update_of_not_mem (hn : name ∈ t.names) (hu : name ∉ u.names) (value : α) :
    (t.update u).put name value = (t.put name value).update u := by
  induction u generalizing t with
  | nil => rfl
  | cons entry u ih =>
      obtain ⟨he, hu⟩ : name ≠ entry.1 ∧ name ∉ names u := by simpa [names] using hu
      rw [update_cons, update_cons, ih (mem_names_put.2 (.inl hn)) hu, put_comm hn he.symm]

/-- One more setting in the lower table is one more setting of the whole. -/
theorem update_put (hu : u.names.Nodup) (name : String) (value : α) :
    t.update (u.put name value) = (t.update u).put name value := by
  induction u generalizing t with
  | nil => rfl
  | cons entry u ih =>
      obtain ⟨hm, hu⟩ := List.nodup_cons.1 hu
      by_cases h : entry.1 = name
      · subst h
        have hput : put (entry :: u) entry.1 value = (entry.1, value) :: u := by simp [put]
        rw [hput, update_cons, update_cons, put_update_of_not_mem (mem_names_put.2 (.inr rfl)) hm,
          put_put]
      · have hput : put (entry :: u) name value = entry :: put u name value := by simp [put, h]
        rw [hput, update_cons, ih hu, update_cons]

theorem nodup_names_put (h : t.names.Nodup) (name : String) (value : α) :
    (t.put name value).names.Nodup := by
  rw [names_put]
  split
  · exact h
  · next hn =>
    rw [List.nodup_append]
    refine ⟨h, by simp, fun other ho key hk => ?_⟩
    rw [List.mem_singleton.1 hk]
    exact fun he => hn (he ▸ ho)

theorem ofSettings_concat (settings : List (String × α)) (s : String × α) :
    ofSettings (settings ++ [s]) = (ofSettings settings).put s.1 s.2 := by
  simp [ofSettings]

theorem nodup_names_ofSettings (settings : List (String × α)) :
    (ofSettings settings).names.Nodup := by
  induction settings using List.reverseRecOn with
  | nil => exact List.nodup_nil
  | append_singleton settings s ih =>
      rw [ofSettings_concat]
      exact nodup_names_put ih s.1 s.2

/-- The table of two runs of settings is that of the first with that of the
second written into it. -/
theorem ofSettings_append (upper lower : List (String × α)) :
    ofSettings (upper ++ lower) = (ofSettings upper).update (ofSettings lower) := by
  induction lower using List.reverseRecOn with
  | nil => rw [List.append_nil]; rfl
  | append_singleton lower s ih =>
      rw [← List.append_assoc, ofSettings_concat, ih, ofSettings_concat,
        update_put (nodup_names_ofSettings lower)]

end Table

/-! ## Lines -/

/-- A line feed between two texts keeps their lines apart. -/
theorem Text.lines_append_newline (s t : List Char) :
    lines (s ++ '\n' :: t) = lines s ++ lines t :=
  List.splitOnP_append_cons s t (beq_self_eq_true '\n')

/-- The lines of the lower text have those of the upper one above them. -/
theorem situate_append (above ls ms : List Line) :
    situate above (ls ++ ms) = situate above ls ++ situate (ls.reverse ++ above) ms := by
  induction ls generalizing above with
  | nil => rfl
  | cons l ls ih => simp [situate, ih]

variable {upper lower : List Line} {name : String}

theorem assignments_append (upper lower : List Line) :
    assignments (upper ++ lower) = (assignments upper).update (assignments lower) := by
  rw [assignments, List.filterMap_append, Table.ofSettings_append]
  rfl

/-- A name that has a value keeps one, though not always the same. -/
theorem get?_assignments_append_eq_none (h : (assignments (upper ++ lower)).get? name = none) :
    (assignments upper).get? name = none := by
  rw [get?_assignments, List.reverse_append, List.findSome?_append, Option.or_eq_none_iff] at h
  rw [get?_assignments]
  exact h.2

theorem contains_allPhony_append (h : (allPhony upper).contains name = true) :
    (allPhony (upper ++ lower)).contains name = true := by
  rw [allPhony, List.flatMap_append, List.contains_append, ← allPhony, h, Bool.true_or]

/-! ## Recipes -/

namespace Recipe

/-- A line at whose start the name stands with a colon behind it opens a recipe,
and a line below ends the recipe. -/
def IsClosed (ls : List Line) (name : String) : Prop :=
  ∃ before heading behind, ls = before ++ heading :: behind ∧
    (∀ l ∈ before, opens name l = false) ∧ opens name heading = true ∧
    ∃ l ∈ behind, ends l = true

/-- A recipe that has been ended does not go on. -/
theorem IsClosed.block_append (h : IsClosed upper name) (lower : List Line) :
    block (upper ++ lower) name = block upper name := by
  obtain ⟨before, heading, behind, rfl, hb, ho, l, hm, he⟩ := h
  obtain ⟨mid, after, rfl⟩ := List.append_of_mem hm
  rw [List.append_assoc, List.cons_append, block_append_cons hb ho, List.append_assoc,
    List.cons_append, blockHere_append_cons_of_ends he, block_append_cons hb ho,
    blockHere_append_cons_of_ends he]

end Recipe

/-! ## Records -/

/-- What a variable may become: it keeps its name and is not required if it was
not before. -/
structure Variable.Relaxed (v w : Variable) : Prop where
  name : w.name = v.name
  required : v.required = false → w.required = false

/-- A variable that has a value or is only tested for stays optional. -/
theorem Variable.relaxed_ofMention (upper lower recipe : List Line) (name : String) :
    (Variable.ofMention upper recipe name).Relaxed
      (Variable.ofMention (upper ++ lower) recipe name) where
  name := rfl
  required := by
    simp only [ofMention]
    cases hv : (assignments (upper ++ lower)).get? name with
    | none => simp [get?_assignments_append_eq_none hv]
    | some value => simp

/-- What becomes of the record of a target when more lines follow these. -/
structure Target.Extended (ls : List Line) (t u : Target) : Prop where
  name : u.name = t.name
  description : u.description = t.description
  dependencies : u.dependencies = t.dependencies
  usageHint : u.usageHint = t.usageHint
  isPhony : t.isPhony = true → u.isPhony = true
  mentions : Recipe.IsClosed ls t.name → List.Forall₂ Variable.Relaxed t.mentions u.mentions

/-- The variables of a recipe that has been ended stay the same, and none
becomes required. -/
theorem relaxed_recipeVariables (h : Recipe.IsClosed upper name) (lower : List Line) :
    List.Forall₂ Variable.Relaxed (recipeVariables upper name)
      (recipeVariables (upper ++ lower) name) := by
  simp only [recipeVariables, h.block_append, List.forall₂_map_left_iff,
    List.forall₂_map_right_iff, List.forall₂_same]
  exact fun v _ => Variable.relaxed_ofMention upper lower _ v

/-- A line of the upper text gives its record again. -/
theorem Target.extended_ofLine? (window : Int) (upper lower : List Line) (s : Situated) :
    Option.Rel (Target.Extended upper) (Target.ofLine? window upper s)
      (Target.ofLine? window (upper ++ lower) s) := by
  unfold Target.ofLine?
  cases declaration? s.line with
  | none => exact .none
  | some d =>
      exact .some
        { name := rfl
          description := rfl
          dependencies := rfl
          usageHint := rfl
          isPhony := contains_allPhony_append
          mentions := fun h => relaxed_recipeVariables h lower }

/-- The record of a line has the name and the dependencies that the line
declares, in any surroundings. -/
theorem Target.rel_ofLine? (window : Int) (ls ms : List Line) {s s' : Situated}
    (h : s.line = s'.line) :
    Option.Rel (fun t u => u.name = t.name ∧ u.dependencies = t.dependencies)
      (Target.ofLine? window ls s) (Target.ofLine? window ms s') := by
  unfold Target.ofLine?
  rw [h]
  cases declaration? s'.line with
  | none => exact .none
  | some d => exact .some ⟨rfl, rfl⟩

/-- The same lines, whatever stands above them. -/
theorem forall₂_line_situate (above above' ls : List Line) :
    List.Forall₂ (fun s s' => s.line = s'.line) (situate above ls) (situate above' ls) := by
  induction ls generalizing above above' with
  | nil => exact .nil
  | cons l ls ih => exact .cons rfl (ih _ _)

namespace Catalog

/-- **Appending is conservative**: the records of a text with another one below
it are those of the upper text and then those of the lower one.  The former
keep everything that stands on and above their lines, may become phony but not
cease to be, and keep their variables, none of them newly required, if the
recipe has been ended.  The latter keep names and dependencies.  The table is
that of the upper text with that of the lower one written into it. -/
theorem text_appended (window : Int) (path : Path) (upper lower : String) :
    let whole := ofText window path (upper ++ "\n" ++ lower)
    ∃ kept added, whole.targets = kept ++ added ∧
      List.Forall₂ (Target.Extended (lines upper.toList)) (ofText window path upper).targets kept ∧
      List.Forall₂ (fun t u => u.name = t.name ∧ u.dependencies = t.dependencies)
        (ofText window path lower).targets added ∧
      whole.assigned = (ofText window path upper).assigned.update
        (ofText window path lower).assigned := by
  intro whole
  have hlines : lines (upper ++ "\n" ++ lower).toList = lines upper.toList ++ lines lower.toList := by
    rw [← lines_append_newline]
    simp
  have hwhole : whole = ofLines window path (lines upper.toList ++ lines lower.toList) := by
    rw [← hlines]
    rfl
  let ls := lines upper.toList ++ lines lower.toList
  refine ⟨(situate [] (lines upper.toList)).filterMap (Target.ofLine? window ls),
    (situate (lines upper.toList).reverse (lines lower.toList)).filterMap
      (Target.ofLine? window ls), ?_, ?_, ?_, ?_⟩
  · rw [hwhole, ofLines, situate_append, List.append_nil, List.filterMap_append]
  · refine List.rel_filterMap (R := Eq) ?_ (List.forall₂_same.2 fun _ _ => rfl)
    rintro s s' rfl
    exact Target.extended_ofLine? window _ _ s
  · exact List.rel_filterMap (fun _ _ h => Target.rel_ofLine? window _ _ h)
      (forall₂_line_situate [] _ _)
  · rw [hwhole]
    exact assignments_append _ _

/-- A value and a phony declaration that come later: the recipe, which the next
declaration ends, keeps its variables, and the required one becomes optional. -/
theorem text_appended_of_later_value :
    let path : Path := ⟨.relative, ["Makefile"]⟩
    let upper := "A = 1\nrun: dep\n\t$(X) $(A)\nstop:"
    let lower := ".PHONY: run\nX ?= 2\nrun: more\n\t$(Y)\n"
    ∃ t u ts us, (ofText 4 path upper).targets = t :: ts ∧
      (ofText 4 path (upper ++ "\n" ++ lower)).targets = u :: us ∧
      Recipe.IsClosed (lines upper.toList) t.name ∧
      List.Forall₂ Variable.Relaxed t.mentions u.mentions ∧
      t.mentions.map (·.required) = [true, false] ∧ u.mentions.map (·.required) = [false, false] ∧
      t.isPhony = false ∧ u.isPhony = true := by
  intro path upper lower
  obtain ⟨t, ts, ht⟩ := List.exists_cons_of_ne_nil (l := (ofText 4 path upper).targets)
    (by decide +kernel)
  obtain ⟨kept, added, hwhole, hkept, -, -⟩ := text_appended 4 path upper lower
  rw [ht, List.forall₂_cons_left_iff] at hkept
  obtain ⟨u, us, hu, -, rfl⟩ := hkept
  have hhead : (ofText 4 path upper).targets.head?.map
      (fun t => (t.name, t.mentions.map (·.required), t.isPhony)) =
      some ("run", [true, false], false) := by decide +kernel
  have hhead' : (ofText 4 path (upper ++ "\n" ++ lower)).targets.head?.map
      (fun u => (u.mentions.map (·.required), u.isPhony)) = some ([false, false], true) := by
    decide +kernel
  rw [ht] at hhead
  rw [hwhole] at hhead'
  obtain ⟨hname, hrequired, hphony⟩ : t.name = "run" ∧ t.mentions.map (·.required) = [true, false] ∧
      t.isPhony = false := by simpa using hhead
  obtain ⟨hrequired', hphony'⟩ : u.mentions.map (·.required) = [false, false] ∧
      u.isPhony = true := by simpa using hhead'
  have hclosed : Recipe.IsClosed (lines upper.toList) t.name := by
    rw [hname]
    exact ⟨["A = 1".toList], "run: dep".toList, ["\t$(X) $(A)".toList, "stop:".toList],
      by decide +kernel, by decide +kernel, by decide +kernel, "stop:".toList, by simp,
      by decide +kernel⟩
  exact ⟨t, u, ts, us ++ added, ht, hwhole, hclosed, hu.mentions hclosed, hrequired, hrequired',
    hphony, hphony'⟩

end Catalog

end MakeTools
