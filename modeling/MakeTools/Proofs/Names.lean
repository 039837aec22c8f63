import Mathlib.Data.List.TakeWhile
import MakeTools.Command
import MakeTools.Server.Config

/-!
# MakeTools.Proofs.Names

The names that a Makefile declares.

A catalog names its targets by the declaring lines alone: the window for usage
hints and the path make no difference (`map_name_targets_ofText`).  What a line
declares is a target's name in the sense of `Command.isTargetName`, so that a
command is never refused for the name of a declared target
(`checkTarget_of_isTargetName`), and no such name is an assignment
(`not_mem_of_isTargetName`).
-/

namespace MakeTools

open Text Line Command

/-! ## Names on a line -/

/-- What stands in front of the colon of a heading is a target's name. -/
theorem isTargetName_of_heading? {s name rest : List Char} (h : heading? s = some (name, rest)) :
    isTargetName name = true := by
  unfold heading? at h
  split at h
  · split at h
    · next hs =>
      simp only [Option.some.injEq, Prod.mk.injEq] at h
      obtain ⟨rfl, -⟩ := h
      cases s with
      | nil => simp at hs
      | cons c s =>
          have hc : isNameStart c = true := by simpa using hs
          rw [List.takeWhile_cons_of_pos (isNameChar_of_isNameStart hc)]
          simp only [isTargetName, hc, Bool.true_and, List.all_eq_true]
          exact fun d hd => List.mem_takeWhile_imp hd
    · contradiction
  · contradiction

/-- What a line declares has a target's name. -/
theorem isTargetName_of_declaration? {line : Line} {name : String} {dependencies : List String}
    (h : declaration? line = some (name, dependencies)) : isTargetName name.toList = true := by
  simp only [declaration?] at h
  split at h
  · contradiction
  · obtain ⟨⟨stem, rest⟩, hh, he⟩ := Option.map_eq_some_iff.1 h
    simp only [Prod.mk.injEq] at he
    rw [← he.1, String.toList_ofList]
    exact isTargetName_of_heading? hh

theorem not_mem_of_isTargetName {name : List Char} (h : isTargetName name = true) :
    '=' ∉ name := by
  cases name with
  | nil => simp
  | cons c s =>
      simp only [isTargetName, Bool.and_eq_true, List.all_eq_true] at h
      intro hm
      rcases List.mem_cons.1 hm with rfl | hm
      · exact absurd h.1 (by decide)
      · exact absurd (h.2 _ hm) (by decide)

/-! ## Names in a catalog -/

/-- The record of a line carries the name that the line declares. -/
theorem Target.map_name_ofLine? (window : Int) (ls : List Line) (s : Situated) :
    (Target.ofLine? window ls s).map (·.name) = (declaration? s.line).map (·.1) := by
  unfold Target.ofLine?
  cases declaration? s.line with
  | none => rfl
  | some d => rfl

namespace Catalog

/-- The targets of a catalog have the names that the lines declare, in
order. -/
theorem map_name_targets_ofText (window : Int) (path : Path) (text : String) :
    (ofText window path text).targets.map (·.name) =
      ((lines text.toList).filterMap declaration?).map (·.1) := by
  have hs : (situate [] (lines text.toList)).map Situated.line = lines text.toList :=
    map_line_situate _ _
  calc
    (ofText window path text).targets.map (·.name)
      = (situate [] (lines text.toList)).filterMap
          (fun s => (declaration? s.line).map (·.1)) := by
        simp only [ofText, ofLines, List.map_filterMap, Target.map_name_ofLine?]
    _ = ((situate [] (lines text.toList)).map Situated.line).filterMap
          (fun l => (declaration? l).map (·.1)) := by
        rw [List.filterMap_map]; rfl
    _ = ((lines text.toList).filterMap declaration?).map (·.1) := by
        rw [hs, List.map_filterMap]

theorem names_ofText_eq (w w' : Int) (p p' : Path) (text : String) :
    (ofText w p text).names = (ofText w' p' text).names := by
  simp only [names, map_name_targets_ofText]

/-- Every name of a catalog that is read from a text is a target's name. -/
theorem isTargetName_of_mem_names_ofText {window : Int} {path : Path} {text name : String}
    (h : name ∈ (ofText window path text).names) : isTargetName name.toList = true := by
  unfold names at h
  rw [List.mem_eraseDups, map_name_targets_ofText] at h
  obtain ⟨⟨_, dependencies⟩, hd, rfl⟩ := List.mem_map.1 h
  obtain ⟨line, -, hl⟩ := List.mem_filterMap.1 hd
  exact isTargetName_of_declaration? hl

/-- A catalog that was loaded was read from the text of the file. -/
theorem load_eq_ok_iff {window : Int} {disk : Disk} {path : Path} {c : Catalog} :
    load window disk path = .ok c ↔
      ∃ text, readText disk path = .ok text ∧ c = ofText window path text := by
  unfold load
  cases readText disk path with
  | error e => simp [Except.map]
  | ok text => simp [Except.map, eq_comm]

theorem isTargetName_of_load {window : Int} {disk : Disk} {path : Path} {c : Catalog}
    {name : String} (h : load window disk path = .ok c) (hm : name ∈ c.names) :
    isTargetName name.toList = true := by
  obtain ⟨text, -, rfl⟩ := load_eq_ok_iff.1 h
  exact isTargetName_of_mem_names_ofText hm

end Catalog

/-- A command is never refused for the name of a declared target. -/
theorem Command.checkTarget_of_isTargetName {name : String} (h : isTargetName name.toList = true) :
    checkTarget name = .ok () := by
  have ha : anchored isTargetName name.toList = true := by simp [anchored, h]
  simp only [checkTarget, ha, if_true]

end MakeTools
