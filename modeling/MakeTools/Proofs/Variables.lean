import MakeTools.Proofs.Mentions

/-!
# MakeTools.Proofs.Variables

What the variables of a target mean.

Every line of a Makefile may give a value to a name, recipe lines included.
Of the lines that do, the last settles the default of a variable
(`get?_assignments_eq_some_iff`) and the first its description
(`assignmentComment?_eq_some_iff`), and a variable is required if there is none
and the recipe refers to it (`Variable.describes_ofMention`).  The two readings
of an assignment, for the table and for one name, agree because each of them is
`Line.Gives` (`assignment?_eq_some_iff`, `assigns_iff`).
-/

namespace MakeTools

open Text Line

variable {ls recipe : List Line} {name : String}

/-! ## Lines that give a value -/

/-- The line gives some value to the name. -/
def Line.Assigns (name : String) (line : Line) : Prop := ∃ value, Gives name value line

/-- The last line that gives the name a value gives it this one. -/
def LastGives (ls : List Line) (name value : String) : Prop :=
  ∃ before line after, ls = before ++ line :: after ∧ Gives name value line ∧
    ∀ l ∈ after, ¬ Assigns name l

/-- The first line that gives the name a value stands below this comment. -/
def FirstComment (ls : List Line) (name comment : String) : Prop :=
  ∃ before line after, ls = before ++ line :: after ∧ Assigns name line ∧
    (∀ l ∈ before, ¬ Assigns name l) ∧ before.getLast?.bind comment? = some comment

theorem FirstComment.exists_mem {comment : String} (h : FirstComment ls name comment) :
    ∃ line ∈ ls, Assigns name line := by
  obtain ⟨before, line, after, rfl, ha, -⟩ := h
  exact ⟨line, by simp, ha⟩

theorem assigns_eq_false_iff {line : Line} : assigns name line = false ↔ ¬ Assigns name line := by
  rw [Assigns, ← assigns_iff, Bool.not_eq_true]

/-! ## The table of all assignments -/

/-- The value that a line is read to give a name. -/
def Line.valueOf? (name : String) (line : Line) : Option String :=
  (assignment? line).bind fun a => if name == a.1 then some a.2 else none

theorem valueOf?_eq_some_iff (hn : IsWord name) {line : Line} {value : String} :
    valueOf? name line = some value ↔ Gives name value line := by
  have ha : Gives name value line ↔ assignment? line = some (name, value) := by
    rw [assignment?_eq_some_iff]
    exact (and_iff_right hn).symm
  rw [ha, valueOf?, Option.bind_eq_some_iff]
  constructor
  · rintro ⟨⟨key, given⟩, hl, hv⟩
    by_cases hk : name = key
    · simp_all
    · simp [hk] at hv
  · intro hl
    exact ⟨_, hl, by simp⟩

theorem valueOf?_eq_none_iff (hn : IsWord name) {line : Line} :
    valueOf? name line = none ↔ ¬ Assigns name line := by
  simp only [Option.eq_none_iff_forall_ne_some, ne_eq, valueOf?_eq_some_iff hn, Assigns, not_exists]

theorem get?_assignments (ls : List Line) (name : String) :
    (assignments ls).get? name = ls.reverse.findSome? (valueOf? name) := by
  rw [assignments, Table.get?_ofSettings, ← List.filterMap_reverse, List.lookup_eq_findSome?,
    ← List.head?_filterMap, List.filterMap_filterMap, List.head?_filterMap]
  rfl

/-- The table has the value that a name is given last. -/
theorem get?_assignments_eq_some_iff (hn : IsWord name) {value : String} :
    (assignments ls).get? name = some value ↔ LastGives ls name value := by
  rw [get?_assignments, List.findSome?_eq_some_iff]
  simp only [valueOf?_eq_some_iff hn, valueOf?_eq_none_iff hn]
  -- the first hit from the end is the last from the start, so both sides are turned round
  constructor
  · rintro ⟨after, line, before, hl, hg, ha⟩
    refine ⟨before.reverse, line, after.reverse, ?_, hg, fun l hm => ha l (List.mem_reverse.1 hm)⟩
    rw [← List.reverse_reverse ls, hl]
    simp
  · rintro ⟨before, line, after, rfl, hg, ha⟩
    exact ⟨after.reverse, line, before.reverse, by simp, hg,
      fun l hm => ha l (List.mem_reverse.1 hm)⟩

theorem get?_assignments_eq_none_iff (hn : IsWord name) :
    (assignments ls).get? name = none ↔ ∀ line ∈ ls, ¬ Assigns name line := by
  simp only [get?_assignments, List.findSome?_eq_none_iff, List.mem_reverse,
    valueOf?_eq_none_iff hn]

/-! ## The comment of a name -/

/-- The comment of a name stands above the line that gives it a value first. -/
theorem assignmentComment?_eq_some_iff {comment : String} :
    assignmentComment? ls name = some comment ↔ FirstComment ls name comment := by
  rw [assignmentComment?, Option.bind_eq_some_iff]
  simp only [find?_situate_eq_some_iff, assigns_iff, assigns_eq_false_iff]
  constructor
  · rintro ⟨s, ⟨before, line, after, hl, ha, hb, rfl⟩, hc⟩
    refine ⟨before, line, after, hl, ha, hb, ?_⟩
    simpa [Situated.comment?] using hc
  · rintro ⟨before, line, after, hl, ha, hb, hc⟩
    refine ⟨_, ⟨before, line, after, hl, ha, hb, rfl⟩, ?_⟩
    simpa [Situated.comment?] using hc

/-! ## Variables -/

/-- What a variable says of its name, in a Makefile of these lines and in a
recipe that refers to these names. -/
structure Variable.Describes (v : Variable) (ls : List Line) (referred : List String) : Prop where
  default : ∀ value, v.default = some value ↔ LastGives ls v.name value
  default_none : v.default = none ↔ ∀ line ∈ ls, ¬ Assigns v.name line
  required : v.required = true ↔ v.name ∈ referred ∧ ∀ line ∈ ls, ¬ Assigns v.name line
  description : ∀ comment, v.description = some comment ↔ FirstComment ls v.name comment

namespace Variable.Describes

variable {v : Variable} {referred : List String}

/-- Nothing is known of a required variable but its name. -/
theorem eq_none_of_required (h : v.Describes ls referred) (hr : v.required = true) :
    v.default = none ∧ v.description = none := by
  obtain ⟨-, hno⟩ := h.required.1 hr
  refine ⟨h.default_none.2 hno, ?_⟩
  cases hd : v.description with
  | none => rfl
  | some comment =>
      obtain ⟨line, hm, ha⟩ := ((h.description comment).1 hd).exists_mem
      exact absurd ha (hno line hm)

/-- A variable that is described has a default. -/
theorem default_ne_none (h : v.Describes ls referred) (hd : v.description ≠ none) :
    v.default ≠ none := by
  obtain ⟨comment, hc⟩ := Option.ne_none_iff_exists'.1 hd
  obtain ⟨line, hm, ha⟩ := ((h.description comment).1 hc).exists_mem
  exact fun hn => h.default_none.1 hn line hm ha

end Variable.Describes

theorem Variable.describes_ofMention (hn : IsWord name) :
    (Variable.ofMention ls recipe name).Describes ls (Recipe.referred recipe) where
  default _ := get?_assignments_eq_some_iff hn
  default_none := get?_assignments_eq_none_iff hn
  required := by
    simp only [ofMention, Bool.and_eq_true, List.contains_iff_mem, Option.isNone_iff_eq_none,
      get?_assignments_eq_none_iff hn]
  description _ := assignmentComment?_eq_some_iff

/-! ## Records -/

namespace Catalog

variable {window : Int} {path : Path} {text : String} {t : Target}

theorem mentions_of_mem_targets_ofText (h : t ∈ (ofText window path text).targets) :
    t.mentions = recipeVariables (lines text.toList) t.name := by
  obtain ⟨s, -, hs⟩ := List.mem_filterMap.1 h
  obtain ⟨d, -, rfl⟩ := Option.map_eq_some_iff.1 hs
  rfl

theorem map_name_mentions (h : t ∈ (ofText window path text).targets) :
    t.mentions.map (·.name) = Recipe.mentioned (Recipe.block (lines text.toList) t.name) := by
  rw [mentions_of_mem_targets_ofText h, recipeVariables, List.map_map]
  exact List.map_id _

/-- The variables of a target have the names of words. -/
theorem isWord_of_mem_mentions (h : t ∈ (ofText window path text).targets) {v : Variable}
    (hv : v ∈ t.mentions) : IsWord v.name := by
  have hm : v.name ∈ t.mentions.map (·.name) := List.mem_map_of_mem hv
  rw [map_name_mentions h] at hm
  exact Recipe.isWord_of_mem_mentioned hm

theorem describes_of_mem_mentions (h : t ∈ (ofText window path text).targets) {v : Variable}
    (hv : v ∈ t.mentions) :
    v.Describes (lines text.toList)
      (Recipe.referred (Recipe.block (lines text.toList) t.name)) := by
  have hw := isWord_of_mem_mentions h hv
  rw [mentions_of_mem_targets_ofText h] at hv
  obtain ⟨name, -, rfl⟩ := List.mem_map.1 hv
  exact Variable.describes_ofMention hw

/-- **The variables of a target**: they have distinct names, first those that
the recipe refers to and then the others that it tests for, in order of
mention.  The last line that gives a name a value gives the default, the first
one has the description above it, and a variable is required exactly if the
recipe refers to it and no line gives it a value.  Every record of a name has
the same variables. -/
theorem variables_of_mem_targets (h : t ∈ (ofText window path text).targets) :
    let ls := lines text.toList
    let recipe := unlines (Recipe.block ls t.name)
    ∃ referred tested, Recipe.InOrder (Recipe.RefersAt recipe) referred ∧
      Recipe.Successive recipe 0 tested ∧
      t.mentions.map (·.name) = referred.eraseDups ++
        (tested.filter fun name => !referred.contains name).eraseDups ∧
      (t.mentions.map (·.name)).Nodup ∧
      (∀ v ∈ t.mentions, v.Describes ls referred ∧
        (v.required = true → v.default = none ∧ v.description = none) ∧
        (v.description ≠ none → v.default ≠ none)) ∧
      ∀ u ∈ (ofText window path text).targets, u.name = t.name → u.mentions = t.mentions := by
  intro ls recipe
  have hnames := map_name_mentions h
  refine ⟨_, _, Recipe.inOrder_references recipe, Recipe.successive_tests recipe, ?_, ?_, ?_, ?_⟩
  · rw [hnames]
    exact Recipe.mentioned_eq_append _
  · rw [hnames]
    exact Recipe.nodup_eraseDups _
  · intro v hv
    have hd : v.Describes ls (Recipe.references recipe) := by
      have hw := isWord_of_mem_mentions h hv
      rw [mentions_of_mem_targets_ofText h] at hv
      obtain ⟨name, -, rfl⟩ := List.mem_map.1 hv
      exact Variable.describes_ofMention hw
    exact ⟨hd, hd.eq_none_of_required, hd.default_ne_none⟩
  · intro u hu he
    rw [mentions_of_mem_targets_ofText hu, mentions_of_mem_targets_ofText h, he]

/-- A test without a name takes the word on the next line, so that the test on
that line is passed over.  The value comes from the last assignment and the
comment from the first. -/
theorem variables_of_test_without_name :
    ∃ t ∈ (ofText 4 ⟨.relative, ["Makefile"]⟩
        "# How\nM = a\nrun:\n\t$(M) $\x7bT\x7d\nifdef\nifdef X\nM ?= b\n").targets,
      t.mentions.map (·.name) = ["M", "T", "ifdef"] ∧
      LastGives (lines "# How\nM = a\nrun:\n\t$(M) $\x7bT\x7d\nifdef\nifdef X\nM ?= b\n".toList)
        "M" "b" ∧
      FirstComment (lines "# How\nM = a\nrun:\n\t$(M) $\x7bT\x7d\nifdef\nifdef X\nM ?= b\n".toList)
        "M" "How" := by
  obtain ⟨t, ht, hm⟩ : ∃ t ∈ (ofText 4 ⟨.relative, ["Makefile"]⟩
      "# How\nM = a\nrun:\n\t$(M) $\x7bT\x7d\nifdef\nifdef X\nM ?= b\n").targets,
      t.mentions = [⟨"M", some "b", false, some "How"⟩, ⟨"T", none, true, none⟩,
        ⟨"ifdef", none, false, none⟩] := by decide +kernel
  have hv : (⟨"M", some "b", false, some "How"⟩ : Variable) ∈ t.mentions := by
    rw [hm]
    exact List.mem_cons_self
  obtain ⟨referred, tested, -, -, -, -, hdescribes, -⟩ := variables_of_mem_targets ht
  obtain ⟨hd, -, -⟩ := hdescribes _ hv
  exact ⟨t, ht, by rw [hm]; rfl, (hd.default "b").1 rfl, (hd.description "How").1 rfl⟩

end Catalog

end MakeTools
