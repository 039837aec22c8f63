import MakeTools.Proofs.Loading
import MakeTools.Proofs.Tokens
import MakeTools.Proofs.Utf8

/-!
# MakeTools.Proofs.LineEndings

Both kinds of line ending mean the same.

A text is cut into lines at its line feeds, so that a carriage return in front
of a line feed stays at the end of its line, and every recogniser meets it.
None of them makes a difference: a blank at the end of a line is never looked
at, unless it is a tab and the whole line (`alike_concat`).  Lines that are
alike in all that is asked of them give the same catalog (`ofLines_map`).

A file is read with every line ending turned into a line feed, and a string is
not; the catalogs are the same (`line_endings_agree`).
-/

namespace MakeTools

open Text Line

/-! ## Line endings -/

namespace Text

variable {c : Char} {s : List Char}

/-- Every carriage return has a line feed behind it. -/
def ReturnsEndLines (s : List Char) : Prop :=
  ∀ i < s.length, s[i]? = some '\r' → s[i + 1]? = some '\n'

instance (s : List Char) : Decidable (ReturnsEndLines s) :=
  inferInstanceAs (Decidable (∀ i < s.length, s[i]? = some '\r' → s[i + 1]? = some '\n'))

/-- Take away each carriage return that has a line feed behind it. -/
def dropReturns : List Char → List Char
  | '\r' :: '\n' :: s => '\n' :: dropReturns s
  | c :: s => c :: dropReturns s
  | [] => []

theorem returnsEndLines_cons_iff :
    ReturnsEndLines (c :: s) ↔ (c = '\r' → s.head? = some '\n') ∧ ReturnsEndLines s := by
  simp only [ReturnsEndLines, List.length_cons, Nat.forall_lt_succ_left, List.getElem?_cons_zero,
    List.getElem?_cons_succ, Option.some.injEq, List.head?_eq_getElem?]

/-- What stands in front of no line feed is no carriage return. -/
theorem ReturnsEndLines.ne_return (h : ReturnsEndLines (c :: s))
    (hne : ∀ t, c = '\r' → s = '\n' :: t → False) : c ≠ '\r' := by
  intro hc
  obtain ⟨hs, -⟩ := returnsEndLines_cons_iff.1 h
  obtain ⟨t, ht⟩ := List.head?_eq_some_iff.1 (hs hc)
  exact hne t hc ht

/-- In front of line feeds only, a carriage return is taken away wherever it
would be turned into a line feed. -/
theorem universalNewlines_eq_dropReturns (h : ReturnsEndLines s) :
    universalNewlines s = dropReturns s := by
  fun_induction dropReturns s with
  | case1 s ih =>
      obtain ⟨-, h⟩ := returnsEndLines_cons_iff.1 h
      obtain ⟨-, h⟩ := returnsEndLines_cons_iff.1 h
      rw [universalNewlines, ih h]
  | case2 c s hne ih =>
      obtain ⟨-, hs⟩ := returnsEndLines_cons_iff.1 h
      rw [universalNewlines, ih hs]
      · exact hne
      · exact h.ne_return hne
  | case3 => rfl

end Text

namespace Line

/-- A line without the carriage return at its end. -/
def chomp (line : Line) : Line :=
  if line.getLast? = some '\r' then line.dropLast else line

theorem chomp_cons {c : Char} (hc : c ≠ '\r') (line : Line) :
    chomp (c :: line) = c :: chomp line := by
  cases line with
  | nil => simp [chomp, hc]
  | cons d line =>
      rw [chomp, chomp, List.getLast?_cons_cons]
      split <;> rfl

theorem eq_chomp_or_eq_concat (line : Line) :
    chomp line = line ∨ line = chomp line ++ ['\r'] := by
  rw [chomp]
  split
  · next h =>
    obtain ⟨before, rfl⟩ := List.getLast?_eq_some_iff.1 h
    exact .inr (by rw [List.dropLast_concat])
  · exact .inl rfl

/-- The lines of a text without such carriage returns are the lines of the text
without the carriage return at their ends. -/
theorem lines_dropReturns {s : List Char} (h : ReturnsEndLines s) :
    lines (dropReturns s) = (lines s).map chomp := by
  fun_induction dropReturns s with
  | case1 s ih =>
      obtain ⟨-, h⟩ := returnsEndLines_cons_iff.1 h
      obtain ⟨-, h⟩ := returnsEndLines_cons_iff.1 h
      simp [lines_cons, ih h, chomp]
  | case2 c s hne ih =>
      obtain ⟨-, hs⟩ := returnsEndLines_cons_iff.1 h
      rw [lines_cons, lines_cons, ih hs]
      split
      · rfl
      · obtain ⟨l, ls, hl⟩ := List.exists_cons_of_ne_nil (List.splitOn_ne_nil '\n' s)
        rw [lines, hl]
        simp [chomp_cons (h.ne_return hne)]
  | case3 => rfl

end Line

/-! ## A blank at the end of a line -/

namespace Line

variable {c : Char} {line : Line}

/-- What ends a text stands behind every other character of it. -/
theorem exists_eq_concat {s t : List Char} {d : Char} (hne : c ≠ d)
    (h : line ++ [c] = s ++ d :: t) : ∃ rest, t = rest ++ [c] ∧ line = s ++ d :: rest := by
  rcases List.eq_nil_or_concat t with rfl | ⟨rest, b, rfl⟩
  · obtain ⟨-, hd⟩ := List.append_inj' h (by rfl)
    exact absurd (List.cons.inj hd).1 hne
  · rw [List.concat_eq_append, ← List.cons_append, ← List.append_assoc] at h
    obtain ⟨hl, hb⟩ := List.append_inj' h (by rfl)
    exact ⟨rest, by rw [List.concat_eq_append, hb], hl⟩

theorem gives_concat_iff (hc : isBlank c = true) {name value : String} :
    Gives name value (line ++ [c]) ↔ Gives name value line := by
  have hequals : c ≠ '=' := ne_of_isBlank hc (by decide)
  constructor
  · rintro ⟨gap, sign, rest, hl, hg, hs, rfl⟩
    obtain ⟨stem, rfl⟩ : ∃ stem, sign = stem ++ ['='] := by
      simp only [assignSigns, List.mem_cons, List.not_mem_nil, or_false] at hs
      rcases hs with rfl | rfl | rfl
      · exact ⟨['?'], rfl⟩
      · exact ⟨[':'], rfl⟩
      · exact ⟨[], rfl⟩
    obtain ⟨rest, rfl, rfl⟩ : ∃ rest', rest = rest' ++ [c] ∧
        line = (name.toList ++ (gap ++ stem)) ++ '=' :: rest' :=
      exists_eq_concat hequals (by rw [hl]; simp)
    exact ⟨gap, _, rest, by simp, hg, hs, by rw [trim_concat_of_isBlank hc]⟩
  · rintro ⟨gap, sign, rest, rfl, hg, hs, rfl⟩
    exact ⟨gap, sign, rest ++ [c], by simp, hg, hs, by rw [trim_concat_of_isBlank hc]⟩

theorem assignment?_concat (hc : isBlank c = true) (line : Line) :
    assignment? (line ++ [c]) = assignment? line := by
  ext ⟨name, value⟩
  rw [assignment?_eq_some_iff, assignment?_eq_some_iff, gives_concat_iff hc]

theorem assigns_concat (hc : isBlank c = true) (name : String) (line : Line) :
    assigns name (line ++ [c]) = assigns name line := by
  rw [Bool.eq_iff_iff, assigns_iff, assigns_iff]
  exact exists_congr fun value => gives_concat_iff hc

theorem opens_concat (hc : isBlank c = true) (name : String) (line : Line) :
    opens name (line ++ [c]) = opens name line := by
  have hcolon : c ≠ ':' := ne_of_isBlank hc (by decide)
  rw [Bool.eq_iff_iff, opens_iff, opens_iff]
  constructor
  · rintro ⟨rest, gap, hl, hg⟩
    rw [← List.append_assoc] at hl
    obtain ⟨rest, -, rfl⟩ := exists_eq_concat hcolon hl
    exact ⟨rest, gap, by simp, hg⟩
  · rintro ⟨rest, gap, rfl, hg⟩
    exact ⟨rest ++ [c], gap, by simp, hg⟩

/-- Two lines are alike in all that a reader asks of them. -/
structure Alike (l m : Line) : Prop where
  trim : trim l = trim m
  assignment? : assignment? l = assignment? m
  assigns : ∀ name, assigns name l = assigns name m
  opens : ∀ name, opens name l = opens name m
  /-- A tab makes a line part of a recipe. -/
  tab : (l.head? == some '\t') = (m.head? == some '\t')
  /-- A number sign keeps it from ending one. -/
  sign : (l.head? == some '#') = (m.head? == some '#')
  references : Recipe.references l = Recipe.references m
  tokens : Recipe.tokens l = Recipe.tokens m

/-- A blank other than a tab makes no difference at the end of a line. -/
theorem alike_concat (hc : isBlank c = true) (ht : c ≠ '\t') (line : Line) :
    Alike (line ++ [c]) line where
  trim := trim_concat_of_isBlank hc line
  assignment? := assignment?_concat hc line
  assigns name := assigns_concat hc name line
  opens name := opens_concat hc name line
  tab := by
    cases line with
    | nil => simpa using ht
    | cons d line => rfl
  sign := by
    cases line with
    | nil =>
        have hs : c ≠ '#' := ne_of_isBlank hc (by decide)
        simpa using hs
    | cons d line => rfl
  references := Recipe.references_concat_of_isBlank hc line
  tokens := Recipe.tokens_concat_of_isBlank hc line

theorem Alike.refl (line : Line) : Alike line line :=
  ⟨rfl, rfl, fun _ => rfl, fun _ => rfl, rfl, rfl, rfl, rfl⟩

theorem Alike.symm {l m : Line} (h : Alike l m) : Alike m l :=
  ⟨h.trim.symm, h.assignment?.symm, fun name => (h.assigns name).symm,
    fun name => (h.opens name).symm, h.tab.symm, h.sign.symm, h.references.symm, h.tokens.symm⟩

/-- A carriage return at the end of a line makes no difference. -/
theorem alike_chomp (line : Line) : Alike (chomp line) line := by
  rcases eq_chomp_or_eq_concat line with h | h
  · rw [h]
    exact .refl line
  · have halike : Alike (chomp line ++ ['\r']) (chomp line) :=
      alike_concat (by decide) (by decide) (chomp line)
    rw [← h] at halike
    exact halike.symm

namespace Alike

variable {l m : Line}

theorem declaration? (h : Alike l m) : Line.declaration? l = Line.declaration? m := by
  simp only [Line.declaration?, h.trim]

theorem phonyNames (h : Alike l m) : Line.phonyNames l = Line.phonyNames m := by
  simp only [Line.phonyNames, h.trim]

theorem isComment (h : Alike l m) : Line.isComment l = Line.isComment m := by
  simp only [Line.isComment, h.trim]

theorem comment? (h : Alike l m) : Line.comment? l = Line.comment? m := by
  simp only [Line.comment?, h.trim]

theorem hint? (h : Alike l m) : Line.hint? l = Line.hint? m := by
  simp only [Line.hint?, h.trim]

theorem belongs (h : Alike l m) : Recipe.belongs l = Recipe.belongs m := by
  simp only [Recipe.belongs, isConditional, h.trim, h.tab]

theorem ends (h : Alike l m) : Recipe.ends l = Recipe.ends m := by
  simp only [Recipe.ends, h.belongs, h.trim, h.sign]

end Alike
end Line

/-! ## Lines that are alike -/

section Map

variable {f : Line → Line} (hf : ∀ line, Alike (f line) line)

include hf

theorem Recipe.block_map (ls : List Line) (name : String) :
    block (ls.map f) name = (block ls name).map f := by
  simp only [block, blockHere, List.dropWhile_map, ← List.map_drop, List.takeWhile_map,
    List.filter_map, Function.comp_def, (hf _).opens, (hf _).ends, (hf _).belongs]

theorem Recipe.mentioned_map (recipe : List Line) :
    mentioned (recipe.map f) = mentioned recipe :=
  mentioned_congr (by simp only [List.flatMap_map, (hf _).references])
    (by simp only [List.flatMap_map, (hf _).tokens])

theorem Recipe.referred_map (recipe : List Line) :
    referred (recipe.map f) = referred recipe := by
  simp only [referred_eq, List.flatMap_map, (hf _).references]

omit hf in
theorem situate_map (above ls : List Line) :
    situate (above.map f) (ls.map f) =
      (situate above ls).map fun s => ⟨s.above.map f, f s.line⟩ := by
  induction ls generalizing above with
  | nil => rfl
  | cons l ls ih => simpa [situate] using ih (l :: above)

omit hf in
theorem situate_nil_map (ls : List Line) :
    situate [] (ls.map f) = (situate [] ls).map fun s => ⟨s.above.map f, f s.line⟩ :=
  situate_map [] ls

theorem Situated.comment?_map (s : Situated) :
    Situated.comment? ⟨s.above.map f, f s.line⟩ = s.comment? := by
  obtain ⟨above, line⟩ := s
  cases above with
  | nil => rfl
  | cons l above => exact (hf l).comment?

theorem Situated.hint?_map (window : Int) (s : Situated) :
    Situated.hint? window ⟨s.above.map f, f s.line⟩ = s.hint? window := by
  simp only [Situated.hint?, ← List.map_take, List.takeWhile_map, List.findSome?_map,
    Function.comp_def, (hf _).isComment, (hf _).hint?]

theorem assignments_map (ls : List Line) : assignments (ls.map f) = assignments ls := by
  simp only [assignments, List.filterMap_map, Function.comp_def, (hf _).assignment?]

theorem assignmentComment?_map (ls : List Line) (name : String) :
    assignmentComment? (ls.map f) name = assignmentComment? ls name := by
  simp only [assignmentComment?, situate_nil_map, List.find?_map, Function.comp_def, (hf _).assigns]
  cases (situate [] ls).find? fun s => assigns name s.line with
  | none => rfl
  | some s => exact Situated.comment?_map hf s

theorem recipeVariables_map (ls : List Line) (name : String) :
    recipeVariables (ls.map f) name = recipeVariables ls name := by
  simp only [recipeVariables, Recipe.block_map hf, Recipe.mentioned_map hf]
  refine List.map_congr_left fun v _ => ?_
  simp only [Variable.ofMention, Recipe.referred_map hf, assignments_map hf,
    assignmentComment?_map hf]

theorem allPhony_map (ls : List Line) : allPhony (ls.map f) = allPhony ls := by
  simp only [allPhony, List.flatMap_map, (hf _).phonyNames]

theorem Target.ofLine?_map (window : Int) (ls : List Line) (s : Situated) :
    Target.ofLine? window (ls.map f) ⟨s.above.map f, f s.line⟩ = Target.ofLine? window ls s := by
  simp only [Target.ofLine?, (hf _).declaration?, recipeVariables_map hf, allPhony_map hf,
    Situated.comment?_map hf, Situated.hint?_map hf]

/-- Lines that are alike give the same catalog. -/
theorem Catalog.ofLines_map (window : Int) (path : Path) (ls : List Line) :
    ofLines window path (ls.map f) = ofLines window path ls := by
  simp only [ofLines, situate_nil_map, assignments_map hf, List.filterMap_map, Function.comp_def,
    Target.ofLine?_map hf]

end Map

/-! ## Texts and files -/

namespace Catalog

/-- The text of a file is what was written, without the carriage returns. -/
theorem readBytes_encode {s : List Char} (h : ReturnsEndLines s) :
    readBytes none (Utf8.encode s) = .ok (String.ofList (dropReturns s)) := by
  rw [readBytes, textOf, Utf8.decode_encode, Except.map, Except.mapError,
    universalNewlines_eq_dropReturns h]

/-- **Line endings agree**: a text whose carriage returns all stand in front of
line feeds is read as the same text without them, in every part of the catalog.
A file of these characters that can be read gives the same catalog as the
text. -/
theorem line_endings_agree (window : Int) (path : Path) (text : String)
    (h : ReturnsEndLines text.toList) :
    ofText window path text = ofText window path (String.ofList (dropReturns text.toList)) ∧
    ∀ disk : Disk, disk.lookup path = .ok (some (.file (Utf8.encode text.toList))) →
      disk.faultAt? path = none → load window disk path = .ok (ofText window path text) := by
  have htext : ofText window path text =
      ofText window path (String.ofList (dropReturns text.toList)) := by
    rw [ofText, ofText, String.toList_ofList, lines_dropReturns h, ofLines_map alike_chomp]
  refine ⟨htext, fun disk hfile hfault => ?_⟩
  rw [load_of_file hfile, hfault, readBytes_encode h, htext]

/-- Some lines end one way and some the other, as a string and as a file. -/
theorem line_endings_agree_of_mixed_text :
    let path : Path := ⟨.relative, ["Makefile"]⟩
    let text := "A ?= 1\r\nall: dep\r\n\t$(A)\n"
    let disk : Disk := { entries := [(["Makefile"], .file (Utf8.encode text.toList))] }
    ReturnsEndLines text.toList ∧
    disk.lookup path = .ok (some (.file (Utf8.encode text.toList))) ∧ disk.faultAt? path = none ∧
    ofText 4 path text = ofText 4 path "A ?= 1\nall: dep\n\t$(A)\n" ∧
    load 4 disk path = .ok (ofText 4 path "A ?= 1\nall: dep\n\t$(A)\n") := by
  intro path text disk
  have hreturns : ReturnsEndLines text.toList := by decide +kernel
  have hfile : disk.lookup path = .ok (some (.file (Utf8.encode text.toList))) := by decide +kernel
  obtain ⟨htext, hload⟩ := line_endings_agree 4 path text hreturns
  have hdrop : String.ofList (dropReturns text.toList) = "A ?= 1\nall: dep\n\t$(A)\n" := by
    decide +kernel
  rw [hdrop] at htext
  exact ⟨hreturns, hfile, rfl, htext, htext ▸ hload disk hfile rfl⟩

end Catalog

end MakeTools
