import MakeTools.Proofs.Blocks
import MakeTools.Proofs.Tokens

/-!
# MakeTools.Proofs.SilentLines

Blank lines and comments carry no structure.

A line is silent if it is blank or has a number sign at its very start.  No
recogniser takes it for an assignment, a declaration or a list of phony names,
and it neither starts nor ends a recipe.  It may become part of one, if it
starts with a tab; then it is blank, and has no reference and no word
(`flatMap_block_insert`).

A silent line can come between a comment and what the comment is about, so
that it does count for descriptions and usage hints.  Everything else in a
catalog stays the same when one is put in (`silent_line_inserted`).
-/

namespace MakeTools

open Text Line

/-! ## Silent lines -/

namespace Line

variable {line : Line} {name : String}

/-- The line is blank, or a comment from its very start on. -/
def IsSilent (line : Line) : Prop := (∀ c ∈ line, isBlank c = true) ∨ line.head? = some '#'

theorem isSilent_iff : line.all isBlank = true ∨ line.head? = some '#' ↔ IsSilent line := by
  rw [IsSilent, List.all_eq_true]

instance (line : Line) : Decidable (IsSilent line) := decidable_of_iff _ isSilent_iff

namespace IsSilent

/-- A silent line starts with nothing that could mean something. -/
theorem head?_any (h : IsSilent line) {p : Char → Bool}
    (hb : ∀ c, p c = true → isBlank c = false) (hs : p '#' = false) :
    line.head?.any p = false := by
  rcases h with h | h
  · cases line with
    | nil => rfl
    | cons c line =>
        rw [List.head?_cons, Option.any_some, ← Bool.not_eq_true]
        intro hp
        have hc := hb c hp
        rw [h c List.mem_cons_self] at hc
        contradiction
  · rw [h, Option.any_some, hs]

/-- Trimmed, a silent line is empty or a comment. -/
theorem trim_cases (h : IsSilent line) : trim line = [] ∨ ∃ s, trim line = '#' :: s := by
  rcases h with h | h
  · exact .inl (trim_eq_nil h)
  · obtain ⟨s, rfl⟩ := List.head?_eq_some_iff.1 h
    refine .inr ⟨trimRight s, ?_⟩
    rw [trim, trimLeft_cons_of_not_isBlank s (by decide)]
    exact trimRight_append_cons_of_not_isBlank [] s (by decide)

theorem assignment?_eq_none (h : IsSilent line) : assignment? line = none := by
  have hn : line.takeWhile isWordChar = [] := by
    have hw := h.head?_any (fun _ => isBlank_eq_false_of_isWordChar) (by decide)
    cases line with
    | nil => rfl
    | cons c line => rw [List.takeWhile_cons_of_neg (by simpa using hw)]
  simp [assignment?, hn]

theorem declaration?_eq_none (h : IsSilent line) : declaration? line = none := by
  rw [Option.eq_none_iff_forall_ne_some]
  rintro ⟨name, dependencies⟩ hd
  obtain ⟨-, hn, rest, hh, -⟩ := declaration?_eq_some_iff.1 hd
  have hstart := hh.head?_any_isNameStart hn
  rcases h.trim_cases with ht | ⟨s, ht⟩
  · rw [ht] at hstart
    contradiction
  · rw [ht, List.head?_cons] at hstart
    exact absurd hstart (by decide)

theorem phonyNames_eq_nil (h : IsSilent line) : phonyNames line = [] := by
  rcases h.trim_cases with ht | ⟨s, ht⟩
  · simp only [phonyNames, ht]
    rfl
  · simp only [phonyNames, ht]
    rfl

theorem isConditional_eq_false (h : IsSilent line) : isConditional line = false := by
  rcases h.trim_cases with ht | ⟨s, ht⟩
  · simp only [isConditional, ht]
    rfl
  · simp only [isConditional, ht]
    rfl

theorem opens_eq_false (h : IsSilent line) (hn : Command.isTargetName name.toList = true) :
    opens name line = false := by
  rw [← Bool.not_eq_true, opens_iff]
  rintro ⟨rest, hh⟩
  have hstart := hh.head?_any_isNameStart hn
  rw [h.head?_any (fun _ => isBlank_eq_false_of_isNameStart) (by decide)] at hstart
  contradiction

theorem ends_eq_false (h : IsSilent line) : Recipe.ends line = false := by
  rcases h with h | h
  · simp [Recipe.ends, trim_eq_nil h]
  · simp [Recipe.ends, h]

/-- A silent line that becomes part of a recipe is blank. -/
theorem isBlank_of_belongs (h : IsSilent line) (hb : Recipe.belongs line = true) :
    ∀ c ∈ line, isBlank c = true := by
  rw [Recipe.belongs, h.isConditional_eq_false, Bool.or_false, beq_iff_eq] at hb
  rcases h with h | h
  · exact h
  · rw [hb] at h
    simp at h

end IsSilent
end Line

/-! ## Recipes -/

namespace Recipe

variable {β : Type} {g : Line → List β} {line : Line} {name : String}

theorem flatMap_blockHere_cons (he : ends line = false) (hg : belongs line = true → g line = [])
    (after : List Line) : (blockHere (line :: after)).flatMap g = (blockHere after).flatMap g := by
  by_cases hb : belongs line = true
  · rw [blockHere_cons_of_belongs hb, List.flatMap_cons, hg hb, List.nil_append]
  · simp [blockHere, he, hb]

theorem flatMap_blockHere_insert (he : ends line = false) (hg : belongs line = true → g line = [])
    (before after : List Line) :
    (blockHere (before ++ line :: after)).flatMap g = (blockHere (before ++ after)).flatMap g := by
  by_cases h : ∀ l ∈ before, ends l = false
  · rw [blockHere_append h, blockHere_append h, List.flatMap_append, List.flatMap_append,
      flatMap_blockHere_cons he hg]
  · obtain ⟨l, hm, hl⟩ : ∃ l ∈ before, ends l = true := by simpa using h
    obtain ⟨mid, rest, rfl⟩ := List.append_of_mem hm
    rw [List.append_assoc, List.cons_append, blockHere_append_cons_of_ends hl, List.append_assoc,
      List.cons_append, blockHere_append_cons_of_ends hl]

/-- A line that neither starts nor ends a recipe and has nothing in it adds
nothing to one. -/
theorem flatMap_block_insert (ho : opens name line = false) (he : ends line = false)
    (hg : belongs line = true → g line = []) (before after : List Line) :
    (block (before ++ line :: after) name).flatMap g = (block (before ++ after) name).flatMap g := by
  by_cases h : ∃ l ∈ before, opens name l = true
  · obtain ⟨top, l, mid, rfl, hl, ht⟩ := exists_first_opens h
    rw [List.append_assoc, List.cons_append, block_append_cons ht hl, List.append_assoc,
      List.cons_append, block_append_cons ht hl]
    exact flatMap_blockHere_insert he hg mid after
  · have hb : ∀ l ∈ before, (!opens name l) = true := by simpa using h
    rw [block, List.dropWhile_append_of_pos hb, List.dropWhile_cons_of_pos (by simp [ho]), block,
      List.dropWhile_append_of_pos hb]

end Recipe

/-! ## Catalogs -/

/-- A variable without its description. -/
def Variable.bare (v : Variable) : Variable := { v with description := none }

/-- A target without descriptions and without its usage hint. -/
def Target.bare (t : Target) : Target :=
  { t with description := "", usageHint := none, mentions := t.mentions.map Variable.bare }

/-- The target of a declaration, without descriptions and usage hint. -/
def bareTarget (ls : List Line) (d : String × List String) : Target where
  name := d.1
  description := ""
  dependencies := d.2
  mentions := (recipeVariables ls d.1).map Variable.bare
  isPhony := (allPhony ls).contains d.1

section Insert

variable {line : Line} (h : IsSilent line) (before after : List Line)

include h

theorem assignments_insert :
    assignments (before ++ line :: after) = assignments (before ++ after) := by
  simp only [assignments, List.filterMap_append, List.filterMap_cons, h.assignment?_eq_none]

theorem allPhony_insert : allPhony (before ++ line :: after) = allPhony (before ++ after) := by
  simp only [allPhony, List.flatMap_append, List.flatMap_cons, h.phonyNames_eq_nil,
    List.nil_append]

theorem filterMap_declaration?_insert :
    (before ++ line :: after).filterMap declaration? =
      (before ++ after).filterMap declaration? := by
  simp only [List.filterMap_append, List.filterMap_cons, h.declaration?_eq_none]

theorem bare_recipeVariables_insert {name : String}
    (hn : Command.isTargetName name.toList = true) :
    (recipeVariables (before ++ line :: after) name).map Variable.bare =
      (recipeVariables (before ++ after) name).map Variable.bare := by
  have ho : opens name line = false := h.opens_eq_false hn
  have hreferences := Recipe.flatMap_block_insert (g := Recipe.references) ho h.ends_eq_false
    (fun hb => Recipe.references_of_forall_isBlank (h.isBlank_of_belongs hb)) before after
  have htokens := Recipe.flatMap_block_insert (g := Recipe.tokens) ho h.ends_eq_false
    (fun hb => Recipe.tokens_of_forall_isBlank (h.isBlank_of_belongs hb)) before after
  simp only [recipeVariables, Recipe.mentioned_congr hreferences htokens, List.map_map]
  refine List.map_congr_left fun v _ => ?_
  simp only [Function.comp_apply, Variable.bare, Variable.ofMention, assignments_insert h,
    Recipe.referred_eq, hreferences]

end Insert

namespace Catalog

/-- Without descriptions and hints, the records are those of the
declarations. -/
theorem map_bare_targets_ofLines (window : Int) (path : Path) (ls : List Line) :
    (ofLines window path ls).targets.map Target.bare =
      (ls.filterMap declaration?).map (bareTarget ls) := by
  calc
    (ofLines window path ls).targets.map Target.bare
      = (situate [] ls).filterMap fun s => (declaration? s.line).map (bareTarget ls) := by
        simp only [ofLines, List.map_filterMap, Target.ofLine?, Option.map_map]
        rfl
    _ = ((situate [] ls).map Situated.line).filterMap
          (fun l => (declaration? l).map (bareTarget ls)) := by
        rw [List.filterMap_map]
        rfl
    _ = (ls.filterMap declaration?).map (bareTarget ls) := by
        rw [map_line_situate, List.map_filterMap]

/-- **Silent lines carry no structure**: if a blank line or a comment is put in
somewhere among the lines of a text, the assignments stay the same, and so do
the targets but for descriptions and usage hints. -/
theorem silent_line_inserted (window : Int) (path : Path) (text : String)
    (before after : List Line) (line : Line) (ht : lines text.toList = before ++ after)
    (hl : '\n' ∉ line) (h : IsSilent line) :
    let edited := String.ofList (unlines (before ++ line :: after))
    lines edited.toList = before ++ line :: after ∧
    (ofText window path edited).assigned = (ofText window path text).assigned ∧
    (ofText window path edited).targets.map Target.bare =
      (ofText window path text).targets.map Target.bare := by
  intro edited
  have hlines : lines edited.toList = before ++ line :: after := by
    rw [String.toList_ofList, lines_unlines _ (by simp)]
    have hmem : ∀ m ∈ before ++ after, '\n' ∉ m := by
      rw [← ht]
      exact fun m => not_mem_of_mem_lines
    simp only [List.forall_mem_append, List.forall_mem_cons] at hmem ⊢
    exact ⟨hmem.1, hl, hmem.2⟩
  refine ⟨hlines, ?_, ?_⟩
  · rw [ofText, ofText, hlines, ht]
    exact assignments_insert h before after
  · rw [ofText, ofText, hlines, ht, map_bare_targets_ofLines, map_bare_targets_ofLines,
      filterMap_declaration?_insert h]
    refine List.map_congr_left fun d hd => ?_
    obtain ⟨l, -, hdecl⟩ := List.mem_filterMap.1 hd
    have hn : Command.isTargetName d.1.toList = true := isTargetName_of_declaration? hdecl
    rw [bareTarget, bareTarget, bare_recipeVariables_insert h before after hn, allPhony_insert h]

/-- A line that holds a tab and nothing else becomes part of a recipe, between a
test word and the name that it takes from the next line. -/
theorem silent_line_inserted_behind_test_word :
    let path : Path := ⟨.relative, ["Makefile"]⟩
    let text := "A ?= 1\nrun:\nifdef\n\tX $(A)\n"
    let edited := "A ?= 1\nrun:\nifdef\n\t\n\tX $(A)\n"
    let before : List Line := ["A ?= 1".toList, "run:".toList, "ifdef".toList]
    let after : List Line := ["\tX $(A)".toList, []]
    lines text.toList = before ++ after ∧ '\n' ∉ ['\t'] ∧ IsSilent ['\t'] ∧
    Recipe.block (lines edited.toList) "run" = ["ifdef".toList, ['\t'], "\tX $(A)".toList] ∧
    (ofText 4 path edited).targets.map Target.bare =
      (ofText 4 path text).targets.map Target.bare ∧
    (ofText 4 path edited).targets.map (fun t => t.mentions.map (·.name)) = [["A", "X"]] := by
  intro path text edited before after
  have hlines : lines text.toList = before ++ after := by decide +kernel
  have hsilent : IsSilent ['\t'] := by decide
  obtain ⟨-, -, htargets⟩ :=
    silent_line_inserted 4 path text before after ['\t'] hlines (by decide) hsilent
  exact ⟨hlines, by decide, hsilent, by decide +kernel, htargets, by decide +kernel⟩

end Catalog

end MakeTools
