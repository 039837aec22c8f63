import MakeTools.Catalog.Basic
import MakeTools.Log
import MakeTools.Makefile.Recipe

/-!
# MakeTools.Catalog.Reader

Reading the text of a Makefile into a catalog.

Every line that declares a target gives one record, in order.  A record's
description is the comment on the line directly above, its usage hint stands
in the comment lines above, and its variables are those that the recipe block
of its name mentions.  Reading never fails: lines that say nothing are passed
over.
-/

namespace MakeTools

open Text Line

/-! ## Lines in their surroundings -/

/-- A line together with the lines above it, nearest first. -/
structure Situated where
  above : List Line
  line : Line

/-- Every line of a text with what stands above it, below the given lines. -/
def situate (above : List Line) : List Line → List Situated
  | [] => []
  | line :: rest => ⟨above, line⟩ :: situate (line :: above) rest

/-- No line is lost, and none is added. -/
theorem map_line_situate (above ls : List Line) :
    (situate above ls).map Situated.line = ls := by
  induction ls generalizing above with
  | nil => rfl
  | cons l ls ih => simp [situate, ih]

/-- The first line of a kind, with what stands above it. -/
theorem find?_situate_eq_some_iff {p : Line → Bool} {above ls : List Line} {s : Situated} :
    ((situate above ls).find? fun s => p s.line) = some s ↔
      ∃ before line after, ls = before ++ line :: after ∧ p line = true ∧
        (∀ l ∈ before, p l = false) ∧ s = ⟨before.reverse ++ above, line⟩ := by
  induction ls generalizing above with
  | nil => simp [situate]
  | cons l ls ih =>
    rw [situate, List.find?_cons]
    cases hl : p l with
    | true =>
      constructor
      · intro h
        exact ⟨[], l, ls, rfl, hl, by simp, (Option.some.inj h).symm⟩
      · rintro ⟨before, line, after, he, -, hb, rfl⟩
        cases before with
        | nil => rw [(List.cons.inj he).1]; rfl
        | cons b before =>
          rw [← (List.cons.inj he).1] at hb
          rw [hb l List.mem_cons_self] at hl
          contradiction
    | false =>
      simp only [ih]
      constructor
      · rintro ⟨before, line, after, rfl, hp, hb, rfl⟩
        exact ⟨l :: before, line, after, rfl, hp, List.forall_mem_cons.2 ⟨hl, hb⟩, by simp⟩
      · rintro ⟨before, line, after, he, hp, hb, rfl⟩
        cases before with
        | nil =>
          rw [(List.cons.inj he).1, hp] at hl
          contradiction
        | cons b before =>
          obtain ⟨rfl, rfl⟩ := List.cons.inj he
          exact ⟨before, line, after, rfl, hp, (List.forall_mem_cons.1 hb).2, by simp⟩

namespace Situated

/-- The comment on the line directly above. -/
def comment? (s : Situated) : Option String := s.above.head?.bind Line.comment?

/-- The nearest usage hint in the comment lines directly above, looking at no
more than `window` lines. -/
def hint? (window : Int) (s : Situated) : Option String :=
  ((s.above.take window.toNat).takeWhile isComment).findSome? Line.hint?

end Situated

/-! ## Variables -/

/-- The table of all assignments. -/
def assignments (ls : List Line) : Table String := Table.ofSettings (ls.filterMap assignment?)

/-- The comment above the first assignment of a name. -/
def assignmentComment? (ls : List Line) (name : String) : Option String :=
  ((situate [] ls).find? fun s => assigns name s.line).bind Situated.comment?

/-- A variable as a recipe mentions it.  It is required if the recipe refers
to it and no line assigns it; a mere existence test never makes it required. -/
def Variable.ofMention (ls : List Line) (recipe : List Line) (name : String) : Variable where
  name := name
  default := (assignments ls).get? name
  required := (Recipe.referred recipe).contains name && ((assignments ls).get? name).isNone
  description := assignmentComment? ls name

/-- The variables that the recipe of a target mentions. -/
def recipeVariables (ls : List Line) (target : String) : List Variable :=
  let recipe := Recipe.block ls target
  (Recipe.mentioned recipe).map (Variable.ofMention ls recipe)

/-! ## Targets -/

/-- All names that some line makes phony. -/
def allPhony (ls : List Line) : List String := ls.flatMap phonyNames

/-- The record of the target that a line declares. -/
def Target.ofLine? (window : Int) (ls : List Line) (s : Situated) : Option Target :=
  (declaration? s.line).map fun (name, dependencies) =>
    { name
      description := s.comment?.getD ("Execute make target: " ++ name)
      dependencies
      mentions := recipeVariables ls name
      usageHint := s.hint? window
      isPhony := (allPhony ls).contains name }

namespace Catalog

/-- How many comment lines are searched for a usage hint, if nothing else is
said. -/
def defaultWindow : Int := 4

/-- Read a list of lines. -/
def ofLines (window : Int) (path : Path) (ls : List Line) : Catalog where
  path := path
  targets := (situate [] ls).filterMap (Target.ofLine? window ls)
  assigned := assignments ls

/-- Read the text of a Makefile. -/
def ofText (window : Int) (path : Path) (text : String) : Catalog :=
  ofLines window path (lines text.toList)

/-- What is logged when a catalog has been read: its size, and a warning if
it has no target. -/
def log (c : Catalog) : List Log.Entry :=
  ⟨.info, .reader, "Parsed Makefile: " ++ toString c.targets.length ++ " targets, "
    ++ toString c.assigned.length ++ " global variables"⟩ ::
  if c.targets.isEmpty then [⟨.warning, .reader, "No targets found in " ++ toString c.path⟩] else []

end Catalog
end MakeTools
