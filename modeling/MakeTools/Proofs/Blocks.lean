import MakeTools.Proofs.Variables

/-!
# MakeTools.Proofs.Blocks

Where the recipe block of a target starts, and where it ends.

A block starts behind the first line that has the name at its very start and a
colon behind it.  That is the line of the target's first record if no line
above it looks the same but for an equals sign, such as an assignment to a
variable of that name or a target-specific one (`forall_opens_eq_false_iff`).

A block ends in front of the next declaration at the start of a line, unless
the name declared there begins with a conditional word: such a line is taken
for a conditional, and the block goes on into the recipe of the other target
(`belongs_of_opens`, `ends_of_opens`).
-/

namespace MakeTools

open Text Line

variable {before mid after ls : List Line} {line : Line} {name : String}

namespace Recipe

/-! ## Where a block starts -/

/-- Of the lines that open a recipe of the name, one is the first. -/
theorem exists_first_opens (h : ∃ l ∈ ls, opens name l = true) :
    ∃ before line after, ls = before ++ line :: after ∧ opens name line = true ∧
      ∀ l ∈ before, opens name l = false := by
  obtain ⟨l, hm, ho⟩ := h
  obtain ⟨line, hf⟩ := Option.isSome_iff_exists.1 (List.find?_isSome.2 ⟨l, hm, ho⟩)
  obtain ⟨hp, before, after, rfl, hb⟩ := List.find?_eq_some_iff_append.1 hf
  exact ⟨before, line, after, rfl, hp, by simpa using hb⟩

theorem block_append_cons (hb : ∀ l ∈ before, opens name l = false)
    (ho : opens name line = true) (after : List Line) :
    block (before ++ line :: after) name = blockHere after := by
  have hd : (before ++ line :: after).dropWhile (fun l => !opens name l) = line :: after := by
    rw [List.dropWhile_append_of_pos (by simpa using hb), List.dropWhile_cons_of_neg (by simp [ho])]
  rw [block, hd, List.drop_one, List.tail_cons]

theorem findIdx_opens_eq_length_iff (ho : opens name line = true) (after : List Line) :
    (before ++ line :: after).findIdx (opens name) = before.length ↔
      ∀ l ∈ before, opens name l = false := by
  rw [List.findIdx_append]
  split
  · next hlt =>
    obtain ⟨l, hm, hl⟩ := List.findIdx_lt_length.1 hlt
    constructor
    · intro he
      omega
    · intro hb
      rw [hb l hm] at hl
      contradiction
  · next hnot =>
    rw [List.findIdx_lt_length] at hnot
    rw [List.findIdx_cons, ho]
    simpa using hnot

/-- Above the first declaration of a name, only lines with an equals sign may
open a recipe of that name. -/
theorem forall_opens_eq_false_iff (hn : Command.isTargetName name.toList = true)
    (hb : ∀ l ∈ before, ¬ Declares name l) :
    (∀ l ∈ before, opens name l = false) ↔ ∀ l ∈ before, opens name l = true → '=' ∉ l := by
  refine forall₂_congr fun l hl => ?_
  constructor
  · intro hf ho
    rw [hf] at ho
    contradiction
  · intro h
    rw [← Bool.not_eq_true]
    intro ho
    have hi := not_isIndented_of_opens hn ho
    exact hb l hl ((declares_iff_of_not_isIndented hn hi).2 ⟨ho, h ho⟩)

/-! ## Where a block ends -/

theorem blockHere_append_cons_of_ends (he : ends line = true) (mid after : List Line) :
    blockHere (mid ++ line :: after) = blockHere mid := by
  have hl : (line :: after).takeWhile (fun l => !ends l) = [] := by simp [he]
  rw [blockHere, List.takeWhile_append, hl, List.append_nil, blockHere]
  split
  · next hm => rw [(List.takeWhile_prefix _).eq_of_length hm]
  · rfl

theorem blockHere_append (hm : ∀ l ∈ mid, ends l = false) (after : List Line) :
    blockHere (mid ++ after) = blockHere mid ++ blockHere after := by
  have hall : ∀ l ∈ mid, (!ends l) = true := by simpa using hm
  have hself : mid.takeWhile (fun l => !ends l) = mid := List.takeWhile_eq_self_iff.2 hall
  rw [blockHere, List.takeWhile_append_of_pos hall, List.filter_append, blockHere, hself, blockHere]

theorem blockHere_cons_of_belongs (hl : belongs line = true) (after : List Line) :
    blockHere (line :: after) = line :: blockHere after := by
  have he : (!ends line) = true := by simp [ends, hl]
  simp only [blockHere, List.takeWhile_cons, he, if_true, List.filter_cons, hl]

/-! ## Headings and conditionals -/

/-- The name begins with a word that opens conditional lines. -/
def hasConditionalStart (name : String) : Bool :=
  conditionalWords.any fun word => word.toList.isPrefixOf name.toList

/-- A beginning that fits into a name cannot reach beyond the name. -/
theorem isPrefixOf_append_of_head? {w n s : List Char} (hw : ∀ c ∈ w, isNameChar c = true)
    (hs : s.head?.any isNameChar = false) : w.isPrefixOf (n ++ s) = w.isPrefixOf n := by
  rw [Bool.eq_iff_iff, List.isPrefixOf_iff_prefix, List.isPrefixOf_iff_prefix]
  constructor
  · intro h
    rcases List.prefix_or_prefix_of_prefix h (List.prefix_append n s) with hn | ⟨u, rfl⟩
    · exact hn
    · -- what reaches beyond `n` would begin `s`, which no name character does
      rw [List.prefix_append_right_inj] at h
      cases u with
      | nil => simp
      | cons c u =>
          cases s with
          | nil => simp at h
          | cons d s =>
              obtain rfl : c = d := by simpa using (List.cons_prefix_cons.1 h).1
              have hc : isNameChar c = true := hw c (by simp)
              simp [hc] at hs
  · intro h
    exact h.trans (List.prefix_append n s)

theorem isConditional_of_opens (hn : Command.isTargetName name.toList = true)
    (ho : opens name line = true) : isConditional line = hasConditionalStart name := by
  obtain ⟨rest, hh⟩ := opens_iff.1 ho
  obtain ⟨gap, ht, hg⟩ := hh.trim hn
  have hall : (conditionalWords.all fun word => word.toList.all isNameChar) = true := by decide
  have hwords : ∀ word ∈ conditionalWords, ∀ c ∈ word.toList, isNameChar c = true :=
    fun word hword => List.all_eq_true.1 (List.all_eq_true.1 hall word hword)
  have hs := head?_append_any_isNameChar hg (c := ':') (by decide) (trimRight rest)
  rw [isConditional, hasConditionalStart, ht, Bool.eq_iff_iff, List.any_eq_true, List.any_eq_true]
  refine exists_congr fun word => and_congr_right fun hword => ?_
  rw [isPrefixOf_append_of_head? (hwords word hword) hs]

/-- A heading at the start of a line begins with no character that cannot begin
a name, such as a tab or a number sign. -/
theorem head?_beq_eq_false_of_opens (hn : Command.isTargetName name.toList = true)
    (ho : opens name line = true) {c : Char} (hc : isNameStart c = false) :
    (line.head? == some c) = false := by
  obtain ⟨rest, hh⟩ := opens_iff.1 ho
  have hs := hh.head?_any_isNameStart hn
  rw [beq_eq_false_iff_ne]
  intro hline
  rw [hline, Option.any_some, hc] at hs
  contradiction

/-- A heading at the start of a line belongs to a recipe above it exactly if
its name begins like a conditional. -/
theorem belongs_of_opens (hn : Command.isTargetName name.toList = true)
    (ho : opens name line = true) : belongs line = hasConditionalStart name := by
  rw [belongs, head?_beq_eq_false_of_opens hn ho (by decide), Bool.false_or,
    isConditional_of_opens hn ho]

/-- Otherwise it ends that recipe. -/
theorem ends_of_opens (hn : Command.isTargetName name.toList = true)
    (ho : opens name line = true) : ends line = !hasConditionalStart name := by
  have hhash : (line.head? == some '#') = false := head?_beq_eq_false_of_opens hn ho (by decide)
  have htrim : (trim line).isEmpty = false := by
    obtain ⟨rest, hh⟩ := opens_iff.1 ho
    obtain ⟨gap, ht, -⟩ := hh.trim hn
    simp [ht]
  rw [ends, belongs_of_opens hn ho, htrim, hhash, Bool.not_false, Bool.and_true, Bool.and_true]

end Recipe

/-! ## Blocks of records -/

namespace Catalog

variable {window : Int} {path : Path} {text : String}

/-- The first record of a name comes from the first line that declares it. -/
theorem find?_ofText_of_declares (hl : lines text.toList = before ++ line :: after)
    (hd : Declares name line) (hb : ∀ l ∈ before, ¬ Declares name l) :
    (ofText window path text).find? name =
      Target.ofLine? window (lines text.toList) ⟨before.reverse, line⟩ := by
  have hline : (fun s : Situated =>
      (Target.ofLine? window (lines text.toList) s).any fun t => t.name == name) =
      fun s => (declaration? s.line).any fun d => d.1 == name := by
    funext s
    unfold Target.ofLine?
    cases declaration? s.line <;> rfl
  have hsituated : (situate [] (lines text.toList)).find?
      (fun s => (declaration? s.line).any fun d => d.1 == name) = some ⟨before.reverse, line⟩ := by
    refine (find?_situate_eq_some_iff (p := fun l => (declaration? l).any fun d => d.1 == name)).2
      ⟨before, line, after, hl, any_declaration?_iff.2 hd, fun l hm => ?_, by rw [List.append_nil]⟩
    rw [← Bool.not_eq_true, any_declaration?_iff]
    exact hb l hm
  simp only [find?, ofText, ofLines, List.find?_filterMap, hline, hsituated, Option.bind_some]

/-- **Where a block starts**: let a line be the first to declare a name, so that
the first record of the name comes from it, and let it not be indented.  The
block of the name starts behind that line exactly if no line above it has the
name at its very start, a colon behind the name, and an equals sign; else it
starts behind such a line. -/
theorem start_block_iff (window : Int) (path : Path)
    (hl : lines text.toList = before ++ line :: after) (hd : Declares name line)
    (hb : ∀ l ∈ before, ¬ Declares name l) (hi : isIndented line = false) :
    (ofText window path text).find? name =
      Target.ofLine? window (lines text.toList) ⟨before.reverse, line⟩ ∧
    ((lines text.toList).findIdx (opens name) = before.length ↔
      ∀ l ∈ before, opens name l = true → '=' ∉ l) ∧
    ((∀ l ∈ before, opens name l = true → '=' ∉ l) →
      Recipe.block (lines text.toList) name = Recipe.blockHere after ∧
      ∀ t ∈ (ofText window path text).targets, t.name = name →
        t.mentions.map (·.name) = Recipe.mentioned (Recipe.blockHere after)) ∧
    ((∃ l ∈ before, opens name l = true ∧ '=' ∈ l) →
      ∃ top l mid, before = top ++ l :: mid ∧ opens name l = true ∧ '=' ∈ l ∧
        Recipe.block (lines text.toList) name = Recipe.blockHere (mid ++ line :: after)) := by
  have hn := hd.isTargetName
  have hclean := Recipe.forall_opens_eq_false_iff hn hb
  have ho : opens name line = true := ((declares_iff_of_not_isIndented hn hi).1 hd).1
  refine ⟨find?_ofText_of_declares hl hd hb, ?_, ?_, ?_⟩
  · rw [hl, Recipe.findIdx_opens_eq_length_iff ho, hclean]
  · intro hc
    have hblock : Recipe.block (lines text.toList) name = Recipe.blockHere after := by
      rw [hl, Recipe.block_append_cons (hclean.2 hc) ho]
    refine ⟨hblock, fun t ht he => ?_⟩
    rw [map_name_mentions ht, he, hblock]
  · rintro ⟨l, hm, hol, -⟩
    obtain ⟨top, first, mid, rfl, hfirst, htop⟩ := Recipe.exists_first_opens ⟨l, hm, hol⟩
    refine ⟨top, first, mid, rfl, hfirst, ?_, ?_⟩
    · -- without an equals sign it would be an earlier declaration of the name
      by_contra he
      have hif := not_isIndented_of_opens hn hfirst
      exact hb first (by simp) ((declares_iff_of_not_isIndented hn hif).2 ⟨hfirst, he⟩)
    · rw [hl, List.append_assoc, List.cons_append, Recipe.block_append_cons htop hfirst]

/-- A longer name in front of a colon, or an assignment further down, does not
draw a block away from its declaration. -/
theorem start_block_of_similar_name :
    lines "build-all: x=1\nbuild :\n\t$(V)\nbuild := 2\n".toList =
      ["build-all: x=1".toList] ++ "build :".toList :: ["\t$(V)".toList, "build := 2".toList, []] ∧
    Declares "build" "build :".toList ∧
    (∀ l ∈ ["build-all: x=1".toList], ¬ Declares "build" l) ∧
    isIndented "build :".toList = false ∧
    (lines "build-all: x=1\nbuild :\n\t$(V)\nbuild := 2\n".toList).findIdx (opens "build") = 1 ∧
    Recipe.block (lines "build-all: x=1\nbuild :\n\t$(V)\nbuild := 2\n".toList) "build" =
      ["\t$(V)".toList] := by
  have hl : lines "build-all: x=1\nbuild :\n\t$(V)\nbuild := 2\n".toList =
      ["build-all: x=1".toList] ++
        "build :".toList :: ["\t$(V)".toList, "build := 2".toList, []] := by
    decide +kernel
  have hd : Declares "build" "build :".toList := by decide +kernel
  have hb : ∀ l ∈ ["build-all: x=1".toList], ¬ Declares "build" l := by decide +kernel
  have hi : isIndented "build :".toList = false := by decide
  have hclean : ∀ l ∈ ["build-all: x=1".toList], opens "build" l = true → '=' ∉ l := by
    decide +kernel
  obtain ⟨-, hstart, hblock, -⟩ := start_block_iff 4 ⟨.relative, ["Makefile"]⟩ hl hd hb hi
  refine ⟨hl, hd, hb, hi, hstart.2 hclean, ?_⟩
  rw [(hblock hclean).1]
  decide +kernel

/-- An assignment to a variable that has the name of a target draws the block
away from the target's declaration. -/
theorem exists_block_not_behind_declaration :
    ¬ ∀ (text name : String) (before after : List Line) (line : Line),
      lines text.toList = before ++ line :: after → Declares name line →
      (∀ l ∈ before, ¬ Declares name l) → isIndented line = false →
      (lines text.toList).findIdx (opens name) = before.length := by
  intro h
  have hidx := h "build := 2\nbuild:\n\t$(V)\n" "build" ["build := 2".toList]
    ["\t$(V)".toList, []] "build:".toList (by decide +kernel) (by decide +kernel)
    (by decide +kernel) (by decide)
  exact absurd hidx (by decide +kernel)

/-- **Where a block ends**: a declaration at the start of a line is in the block
of a target only if the name declared begins with a conditional word.  A
declaration below the target's heading of a name that does not cuts the block
off, so that the target mentions only what is mentioned above; a declaration
that the block reaches of a name that does is taken into the block, and with
it what follows. -/
theorem block_apart_iff {t : Target} (ht : t ∈ (ofText window path text).targets) :
    (∀ l ∈ Recipe.block (lines text.toList) t.name, isIndented l = false →
      ∀ other, Declares other l → Recipe.hasConditionalStart other = true) ∧
    ∀ top heading mid l after other,
      lines text.toList = top ++ heading :: (mid ++ l :: after) →
      opens t.name heading = true → (∀ l ∈ top, opens t.name l = false) →
      isIndented l = false → Declares other l →
      (Recipe.hasConditionalStart other = false →
        Recipe.block (lines text.toList) t.name = Recipe.blockHere mid ∧
        t.mentions.map (·.name) = Recipe.mentioned (Recipe.blockHere mid)) ∧
      (Recipe.hasConditionalStart other = true → (∀ l ∈ mid, Recipe.ends l = false) →
        Recipe.block (lines text.toList) t.name =
          Recipe.blockHere mid ++ l :: Recipe.blockHere after) := by
  constructor
  · intro l hm hi other hd
    have hn := hd.isTargetName
    have ho : opens other l = true := ((declares_iff_of_not_isIndented hn hi).1 hd).1
    rw [← Recipe.belongs_of_opens hn ho]
    exact (List.mem_filter.1 hm).2
  · intro top heading mid l after other hl hh htop hi hd
    have hn := hd.isTargetName
    have ho : opens other l = true := ((declares_iff_of_not_isIndented hn hi).1 hd).1
    have hblock : Recipe.block (lines text.toList) t.name =
        Recipe.blockHere (mid ++ l :: after) := by
      rw [hl, Recipe.block_append_cons htop hh]
    constructor
    · intro hc
      have he : Recipe.ends l = true := by rw [Recipe.ends_of_opens hn ho, hc, Bool.not_false]
      rw [Recipe.blockHere_append_cons_of_ends he] at hblock
      exact ⟨hblock, by rw [map_name_mentions ht, hblock]⟩
    · intro hc hmid
      rw [hblock, Recipe.blockHere_append hmid,
        Recipe.blockHere_cons_of_belongs ((Recipe.belongs_of_opens hn ho).trans hc)]

/-- Blank lines, comments and conditionals do not end a block, and the next
declaration does. -/
theorem block_apart_of_conditional :
    ∃ t ∈ (ofText 4 ⟨.relative, ["Makefile"]⟩
        "one:\nifdef X\n\n# c\n\t$(A)\nelsif:\n\t$(B)\n").targets,
      opens t.name "one:".toList = true ∧ isIndented "elsif:".toList = false ∧
      Declares "elsif" "elsif:".toList ∧ t.mentions.map (·.name) = ["A", "X"] := by
  obtain ⟨t, ht, hname⟩ : ∃ t ∈ (ofText 4 ⟨.relative, ["Makefile"]⟩
      "one:\nifdef X\n\n# c\n\t$(A)\nelsif:\n\t$(B)\n").targets, t.name = "one" := by
    decide +kernel
  have hh : opens t.name "one:".toList = true := by
    rw [hname]
    decide +kernel
  have hi : isIndented "elsif:".toList = false := by decide
  have hd : Declares "elsif" "elsif:".toList := by decide +kernel
  obtain ⟨-, hapart⟩ := block_apart_iff ht
  obtain ⟨hcut, -⟩ := hapart [] "one:".toList ["ifdef X".toList, [], "# c".toList, "\t$(A)".toList]
    "elsif:".toList ["\t$(B)".toList, []] "elsif" (by decide +kernel) hh (by simp) hi hd
  obtain ⟨-, hm⟩ := hcut (by decide)
  refine ⟨t, ht, hh, hi, hd, hm.trans ?_⟩
  decide +kernel

/-- The declaration of a name that begins like a conditional is in the block
above it. -/
theorem exists_declaration_mem_block :
    ¬ ∀ (text name : String), ∀ l ∈ Recipe.block (lines text.toList) name,
      isIndented l = false → ∀ other, ¬ Declares other l := by
  intro h
  exact h "one:\n\t$(A)\nelsewhere:\n\t$(B)\n" "one" "elsewhere:".toList (by decide +kernel)
    (by decide) "elsewhere" (by decide +kernel)

end Catalog

end MakeTools
