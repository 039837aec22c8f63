import MakeTools.Proofs.Tokens
import MakeTools.Proofs.Variables

/-!
# MakeTools.Proofs.TestLines

Existence tests, read line by line.

A line tests for a name if it is a test word, blanks and the name
(`TestsLine`).  The search for tests reads a recipe as one text, and it comes to
the same result line by line with one thing to be carried along: whether a name
is still to come (`awaitsName`).  A line with a test word and nothing else asks
for one; the next line with a word on it is then read for the name that it
begins with, and not for a test of its own (`tested_eq_lineNames`).

So the names that a recipe tests for are those of its single lines, unless a
test word without a name has a line behind it that begins with a word.
-/

namespace MakeTools

open Text Line

namespace Recipe

variable {w s r : List Char} {name : String} {line : Line} {recipe : List Line}

/-! ## Lines -/

/-- The line tests for the name: blanks, a test word, at least one blank, and
the whole of a word. -/
def TestsLine (name : String) (line : Line) : Prop := ∃ rest, IsTest name line rest

/-- The line begins with the name: blanks, and the whole of a word. -/
def BeginsLine (name : String) (line : Line) : Prop :=
  ∃ gap rest, line = gap ++ (name.toList ++ rest) ∧ (∀ c ∈ gap, isBlank c = true) ∧
    IsWord name ∧ rest.head?.any isWordChar = false

/-- Does the line hold a test word and nothing else? -/
def isBareTest (line : Line) : Bool :=
  match tokens line with
  | [token] => token.opensTest
  | _ => false

/-- Is a name still to come behind a line?  A line with a test word and nothing
else asks for one, unless it is itself read for a name.  A line without a word
leaves things as they are. -/
def awaitsBehind (awaited : Bool) (line : Line) : Bool :=
  if (tokens line).isEmpty then awaited else !awaited && isBareTest line

/-- Is a name still to come behind these lines? -/
def awaitsName (ls : List Line) : Bool := ls.foldl awaitsBehind false

/-- The name that a line brings: the one that it begins with if a name is still
to come, and the one that it tests for otherwise. -/
def lineName? (awaited : Bool) (line : Line) : Option String :=
  if awaited then (word? (trimLeft line)).map Prod.fst else (test? line).map Prod.fst

/-- The names that lines bring, in order. -/
def lineNames (awaited : Bool) : List Line → List String
  | [] => []
  | line :: ls => (lineName? awaited line).toList ++ lineNames (awaitsBehind awaited line) ls

theorem lineName?_false_eq_some_iff : lineName? false line = some name ↔ TestsLine name line := by
  simp only [lineName?, Bool.false_eq_true, if_false, Option.map_eq_some_iff, Prod.exists,
    exists_and_right, exists_eq_right, test?_eq_some_iff, TestsLine]

theorem lineName?_true_eq_some_iff : lineName? true line = some name ↔ BeginsLine name line := by
  simp only [lineName?, if_true, Option.map_eq_some_iff, Prod.exists, exists_and_right,
    exists_eq_right, word?_eq_some_iff, BeginsLine]
  constructor
  · intro h
    obtain ⟨rest, hw, ht, hr⟩ := h
    obtain ⟨gap, hg, hl⟩ := exists_append_trimLeft line
    exact ⟨gap, rest, by rw [← ht, ← hl], hg, hw, hr⟩
  · intro h
    obtain ⟨gap, rest, rfl, hg, hw, hr⟩ := h
    exact ⟨rest, hw, by rw [trimLeft_append hg, trimLeft_word hw], hr⟩

instance (name : String) (line : Line) : Decidable (TestsLine name line) :=
  decidable_of_iff _ lineName?_false_eq_some_iff

/-! ## Words of a line -/

/-- Only the first word of a line is marked as such. -/
theorem first_eq_false_of_mem_tokensFrom {first : Bool} (hf : first = false) (hs : '\n' ∉ s) :
    ∀ token ∈ tokensFrom first s, token.first = false := by
  fun_induction tokensFrom first s with
  | case1 first => simp
  | case2 first c s hc ih =>
      obtain ⟨hcn, hs⟩ := not_or.1 (List.mem_cons.not.1 hs)
      have hb : (c == '\n') = false := beq_eq_false_iff_ne.2 (Ne.symm hcn)
      exact ih (by rw [hf, hb, Bool.false_or]) hs
  | case3 first c s hc ih =>
      obtain ⟨-, hs⟩ := not_or.1 (List.mem_cons.not.1 hs)
      rw [List.forall_mem_cons]
      exact ⟨hf, ih rfl fun hm => hs ((List.dropWhile_sublist _).subset hm)⟩

/-- Blanks in front of the first word of a line make no difference. -/
theorem tokens_trimLeft (line : Line) : tokens (trimLeft line) = tokens line := by
  induction line with
  | nil => rfl
  | cons c line ih =>
      by_cases hc : isBlank c = true
      · rw [tokens, tokens, tokensFrom_cons_of_isBlank hc, Bool.true_or, ← tokens, ← tokens, ← ih]
        simp [trimLeft, hc]
      · rw [trimLeft_cons_of_not_isBlank _ (Bool.eq_false_iff.2 hc)]

theorem tokens_of_trimLeft_eq (ht : trimLeft line = w ++ r) (hne : w ≠ [])
    (hw : ∀ c ∈ w, isInk c = true) (hr : r.head?.any isInk = false) :
    tokens line = ⟨true, w⟩ :: tokensFrom false r := by
  rw [← tokens_trimLeft, ht, tokens, tokensFrom_append hne hw hr]

/-- A test on a line is a test behind its blanks. -/
theorem test?_trimLeft (s : List Char) : test? (trimLeft s) = test? s := by
  obtain ⟨gap, hg, hs⟩ := exists_append_trimLeft s
  have h : trimLeft (trimLeft s) = trimLeft s := by
    rw [← trimLeft_append hg, ← hs]
  rw [test?, test?, h]

/-! ## The search, line by line -/

/-- The names that words test for, if a name may still be to come. -/
def testsBehind (awaited : Bool) (ts : List Token) : List String :=
  match if awaited then ts.head?.bind Token.name? else none with
  | some name => name :: testsOf ts.tail
  | none => testsOf ts

theorem testsBehind_false (ts : List Token) : testsBehind false ts = testsOf ts := rfl

/-- A word that opens a test leaves a name to come. -/
theorem testsOf_cons_eq (token : Token) (ts : List Token) :
    testsOf (token :: ts) = testsBehind token.opensTest ts := by
  cases ho : token.opensTest with
  | false => exact testsOf_cons fun h => absurd (ho.symm.trans h) (by decide)
  | true =>
      cases hn : ts.head?.bind Token.name? with
      | some name => simp only [testsBehind, hn, if_true, testsOf_cons_of_opensTest ho hn]
      | none => simp only [testsBehind, hn, if_true, testsOf_cons fun _ => hn]

/-- Words behind the first of a line open no test. -/
theorem testsOf_append {ts : List Token} (h : ∀ token ∈ ts, token.first = false)
    (rest : List Token) : testsOf (ts ++ rest) = testsOf rest := by
  induction ts with
  | nil => rfl
  | cons token ts ih =>
      obtain ⟨hf, h⟩ := List.forall_mem_cons.1 h
      have ho : token.opensTest = false := by rw [Token.opensTest, hf, Bool.false_and]
      rw [List.cons_append, testsOf_cons_eq, ho, testsBehind_false, ih h]

/-- A test word is a word, so that it can be read for a name. -/
theorem name?_ne_none_of_opensTest {token : Token} (h : token.opensTest = true) :
    token.name? ≠ none := by
  have hall : (testWords.all fun word => (word? word).isSome) = true := by decide
  rw [Token.opensTest, Bool.and_eq_true, List.contains_iff_mem] at h
  have hs := List.all_eq_true.1 hall token.chars h.2
  intro hn
  rw [Token.name?, Option.map_eq_none_iff] at hn
  rw [hn] at hs
  contradiction

/-- A word that is read for a name opens no test of its own. -/
theorem testsBehind_true_cons (token : Token) (ts : List Token) :
    testsBehind true (token :: ts) = token.name?.toList ++ testsOf ts := by
  cases hn : token.name? with
  | some name => simp only [testsBehind, if_true, List.head?_cons, Option.bind_some, hn,
      List.tail_cons, Option.toList_some, List.cons_append, List.nil_append]
  | none =>
      have ho : token.opensTest = false := by
        by_contra ho
        exact name?_ne_none_of_opensTest (Bool.not_eq_false _ ▸ ho) hn
      simp only [testsBehind, if_true, List.head?_cons, Option.bind_some, hn, testsOf_cons_eq, ho]
      rfl

theorem isBareTest_of_tokens_eq {token : Token} {ts : List Token} (h : tokens line = token :: ts) :
    isBareTest line = (token.opensTest && ts.isEmpty) := by
  rw [isBareTest, h]
  cases ts with
  | nil => rw [List.isEmpty_nil, Bool.and_true]
  | cons token ts => rw [List.isEmpty_cons, Bool.and_false]

/-- The name that a line brings, read off its words. -/
theorem lineName?_of_trimLeft_eq (ht : trimLeft line = w ++ r) (hne : w ≠ [])
    (hw : ∀ c ∈ w, isInk c = true) (hr : r.head?.any isInk = false) :
    lineName? true line = (Token.mk true w).name? ∧
      lineName? false line = if (Token.mk true w).opensTest
        then (tokensFrom false r).head?.bind Token.name? else none := by
  constructor
  · rw [lineName?, if_pos rfl, ht, word?_append hr, Option.map_map]
    rfl
  · rw [lineName?, if_neg Bool.false_ne_true, ← test?_trimLeft, ht, test?_append hne hw hr,
      head?_tokensFrom_bind_name?, Token.opensTest, Bool.true_and, List.contains_eq_mem]
    simp only [decide_eq_true_eq]
    split <;> rfl

theorem lineName?_of_trimLeft_eq_nil (ht : trimLeft line = []) (awaited : Bool) :
    lineName? awaited line = none := by
  cases awaited with
  | true => simp [lineName?, ht, word?]
  | false =>
      simp only [lineName?, ← test?_trimLeft line, ht]
      rfl

/-- One line: it brings its name, and it may leave one to come. -/
theorem testsBehind_tokens_append (hl : '\n' ∉ line) (awaited : Bool) (rest : List Token) :
    testsBehind awaited (tokens line ++ rest) =
      (lineName? awaited line).toList ++ testsBehind (awaitsBehind awaited line) rest := by
  cases trimLeft_eq_nil_or_append line with
  | inl ht =>
      have htokens : tokens line = [] := by rw [← tokens_trimLeft, ht, tokens, tokensFrom_nil]
      rw [htokens, lineName?_of_trimLeft_eq_nil ht, awaitsBehind, htokens]
      rfl
  | inr h =>
      obtain ⟨w, r, ht, hne, hw, hr⟩ := h
      have htokens := tokens_of_trimLeft_eq ht hne hw hr
      obtain ⟨htrue, hfalse⟩ := lineName?_of_trimLeft_eq ht hne hw hr
      have hrl : '\n' ∉ r := by
        obtain ⟨gap, -, hgap⟩ := exists_append_trimLeft line
        intro hm
        exact hl (by rw [hgap, ht]; simp [hm])
      have hlater := first_eq_false_of_mem_tokensFrom rfl hrl
      rw [awaitsBehind, isBareTest_of_tokens_eq htokens, htokens, List.isEmpty_cons,
        if_neg Bool.false_ne_true, List.cons_append]
      cases awaited with
      | true => rw [testsBehind_true_cons, testsOf_append hlater, htrue]; rfl
      | false =>
          rw [testsBehind_false, testsOf_cons_eq, hfalse]
          cases (Token.mk true w).opensTest with
          | false => exact testsOf_append hlater rest
          | true =>
              cases hts : tokensFrom false r with
              | nil => rfl
              | cons token ts =>
                  obtain ⟨-, hlater⟩ := List.forall_mem_cons.1 (hts ▸ hlater)
                  rw [List.cons_append, testsBehind_true_cons, testsOf_append hlater]
                  rfl

theorem testsBehind_flatMap_tokens (h : ∀ line ∈ recipe, '\n' ∉ line) (awaited : Bool) :
    testsBehind awaited (recipe.flatMap tokens) = lineNames awaited recipe := by
  induction recipe generalizing awaited with
  | nil => cases awaited <;> rfl
  | cons line recipe ih =>
      obtain ⟨hl, h⟩ := List.forall_mem_cons.1 h
      rw [List.flatMap_cons, testsBehind_tokens_append hl, ih h, lineNames]

/-- The names that a recipe tests for are those that its lines bring. -/
theorem tested_eq_lineNames (h : ∀ line ∈ recipe, '\n' ∉ line) :
    tested recipe = lineNames false recipe := by
  rw [tested_eq, ← testsBehind_false, testsBehind_flatMap_tokens h]

theorem mem_lineNames_iff {awaited : Bool} {ls : List Line} :
    name ∈ lineNames awaited ls ↔ ∃ before line after, ls = before ++ line :: after ∧
      lineName? (before.foldl awaitsBehind awaited) line = some name := by
  induction ls generalizing awaited with
  | nil => simp [lineNames]
  | cons first ls ih =>
      rw [lineNames, List.mem_append, Option.mem_toList, ih]
      constructor
      · intro h
        cases h with
        | inl h => exact ⟨[], first, ls, rfl, h⟩
        | inr h =>
            obtain ⟨before, line, after, rfl, h⟩ := h
            exact ⟨first :: before, line, after, rfl, h⟩
      · intro h
        obtain ⟨before, line, after, hl, h⟩ := h
        cases before with
        | nil =>
            obtain ⟨rfl, rfl⟩ := List.cons.inj hl
            exact .inl h
        | cons m before =>
            obtain ⟨rfl, rfl⟩ := List.cons.inj hl
            exact .inr ⟨before, line, after, rfl, h⟩

/-- A recipe tests for the name that a line begins with if a name is still to
come, and for the one that the line tests for otherwise. -/
theorem mem_tested_iff (h : ∀ line ∈ recipe, '\n' ∉ line) :
    name ∈ tested recipe ↔ ∃ before line after, recipe = before ++ line :: after ∧
      (awaitsName before = true ∧ BeginsLine name line ∨
        awaitsName before = false ∧ TestsLine name line) := by
  rw [tested_eq_lineNames h, mem_lineNames_iff]
  refine exists_congr fun before => exists_congr fun line => exists_congr fun after =>
    and_congr_right fun _ => ?_
  rw [← awaitsName]
  cases awaitsName before with
  | true => simp [lineName?_true_eq_some_iff]
  | false => simp [lineName?_false_eq_some_iff]

/-- A line with a test begins with a word, the test word. -/
theorem TestsLine.exists_beginsLine (h : TestsLine name line) : ∃ word, BeginsLine word line := by
  obtain ⟨rest, gap, word, gap', rfl, hg, hword, hne, hg', -, -⟩ := h
  have hall : (testWords.all fun word => word.all isWordChar && !word.isEmpty) = true := by decide
  have hw := List.all_eq_true.1 hall word hword
  rw [Bool.and_eq_true, List.all_eq_true, Bool.not_eq_true', List.isEmpty_eq_false_iff] at hw
  obtain ⟨c, gap', rfl⟩ := List.exists_cons_of_ne_nil hne
  refine ⟨String.ofList word, gap, _, by rw [String.toList_ofList], hg, ?_, ?_⟩
  · rw [IsWord, String.toList_ofList]
    exact ⟨hw.2, hw.1⟩
  · rw [List.cons_append, List.head?_cons, Option.any_some]
    exact isWordChar_eq_false_of_isBlank (hg' c List.mem_cons_self)

/-- Where no line behind a test word without a name begins with a word, the
tests are those of single lines. -/
theorem mem_tested_iff_exists_testsLine (h : ∀ line ∈ recipe, '\n' ∉ line)
    (hb : ∀ before line after, recipe = before ++ line :: after → awaitsName before = true →
      ∀ word, ¬ BeginsLine word line) :
    name ∈ tested recipe ↔ ∃ line ∈ recipe, TestsLine name line := by
  rw [mem_tested_iff h]
  constructor
  · intro hm
    obtain ⟨before, line, after, hl, hm⟩ := hm
    cases hm with
    | inl hm => exact absurd hm.2 (hb before line after hl hm.1 name)
    | inr hm => exact ⟨line, by simp [hl], hm.2⟩
  · intro hm
    obtain ⟨line, hmem, ht⟩ := hm
    obtain ⟨before, after, hl⟩ := List.append_of_mem hmem
    refine ⟨before, line, after, hl, .inr ⟨?_, ht⟩⟩
    by_contra ha
    obtain ⟨word, hword⟩ := ht.exists_beginsLine
    exact hb before line after hl (Bool.not_eq_false _ ▸ ha) word hword

theorem not_mem_of_mem_block {s : List Char} {target : String} (h : line ∈ block (lines s) target) :
    '\n' ∉ line := by
  have hb := List.mem_of_mem_drop ((List.takeWhile_sublist _).subset (List.mem_filter.1 h).1)
  exact not_mem_of_mem_lines ((List.dropWhile_sublist _).subset hb)

theorem not_mem_references_iff : name ∉ references s ↔ ∀ i, ¬ RefersAt s i name := by
  rw [mem_references_iff, not_exists]

theorem mem_mentioned_iff_of_not_mem (hn : name ∉ referred recipe) :
    name ∈ mentioned recipe ↔ name ∈ tested recipe := by
  rw [mentioned, List.mem_eraseDups, List.mem_append, or_iff_right hn]

end Recipe

namespace Catalog

open Recipe

variable {window : Int} {path : Path} {text : String} {t : Target}

/-- **Existence tests are read line by line**, but for a test word without a
name: the next line with a word on it is then read for the name that it begins
with.  Of the names that the recipe does not refer to, those are listed that a
line tests for when none is to come and those that a line begins with when one
is.  So they are just the names that single lines test for, unless a test word
without a name has a line behind it that begins with a word. -/
theorem tested_on_lines (h : t ∈ (ofText window path text).targets) :
    let recipe := Recipe.block (lines text.toList) t.name
    ∀ name, (∀ i, ¬ RefersAt (unlines recipe) i name) →
      (name ∈ t.mentions.map (·.name) ↔
        ∃ before line after, recipe = before ++ line :: after ∧
          (awaitsName before = true ∧ BeginsLine name line ∨
            awaitsName before = false ∧ TestsLine name line)) ∧
      ((∀ before line after, recipe = before ++ line :: after → awaitsName before = true →
          ∀ word, ¬ BeginsLine word line) →
        (name ∈ t.mentions.map (·.name) ↔ ∃ line ∈ recipe, TestsLine name line)) := by
  intro recipe name hn
  have hl : ∀ line ∈ recipe, '\n' ∉ line := fun _ => not_mem_of_mem_block
  rw [map_name_mentions h, mem_mentioned_iff_of_not_mem (not_mem_references_iff.2 hn)]
  exact ⟨mem_tested_iff hl, mem_tested_iff_exists_testsLine hl⟩

/-- A test word without a name does no harm in front of a line that begins with
a sign. -/
theorem tested_on_lines_of_bare_test :
    ∃ t ∈ (ofText 4 ⟨.relative, ["Makefile"]⟩ "run:\nifdef\n\t@$(R)\n  ifndef E-1\n").targets,
      Recipe.block (lines "run:\nifdef\n\t@$(R)\n  ifndef E-1\n".toList) t.name =
        ["ifdef".toList, "\t@$(R)".toList, "  ifndef E-1".toList] ∧
      awaitsName ["ifdef".toList] = true ∧ TestsLine "E" "  ifndef E-1".toList ∧
      "E" ∈ t.mentions.map (·.name) ∧ "X" ∉ t.mentions.map (·.name) := by
  obtain ⟨t, ht, hname⟩ : ∃ t ∈ (ofText 4 ⟨.relative, ["Makefile"]⟩
      "run:\nifdef\n\t@$(R)\n  ifndef E-1\n").targets, t.name = "run" := by decide +kernel
  have hblock : Recipe.block (lines "run:\nifdef\n\t@$(R)\n  ifndef E-1\n".toList) t.name =
      ["ifdef".toList, "\t@$(R)".toList, "  ifndef E-1".toList] := by
    rw [hname]
    decide +kernel
  have hiff := tested_on_lines ht
  simp only [hblock] at hiff
  have hnone : ∀ name, name ∉ ["R"] → ∀ i, ¬ RefersAt (unlines
      ["ifdef".toList, "\t@$(R)".toList, "  ifndef E-1".toList]) i name := by
    intro name hn
    have hrefs : references (unlines
        ["ifdef".toList, "\t@$(R)".toList, "  ifndef E-1".toList]) = ["R"] := by decide +kernel
    rwa [← not_mem_references_iff, hrefs]
  have hsign : ∀ before line after,
      ["ifdef".toList, "\t@$(R)".toList, "  ifndef E-1".toList] = before ++ line :: after →
      awaitsName before = true → ∀ word, ¬ BeginsLine word line := by
    intro before line after hl ha word hb
    simp only [List.cons_eq_append_iff, List.nil_eq_append_iff] at hl
    obtain ⟨rfl, -⟩ | ⟨_, rfl, ⟨rfl, hl⟩ | ⟨_, rfl, ⟨rfl, -⟩ | ⟨_, -, -, hl⟩⟩⟩ := hl
    · contradiction
    · obtain ⟨rfl, -⟩ := List.cons.inj hl
      have hname : lineName? true "\t@$(R)".toList = none := by decide +kernel
      rw [← lineName?_true_eq_some_iff, hname] at hb
      contradiction
    · exact absurd ha (by decide +kernel)
    · contradiction
  have hE : TestsLine "E" "  ifndef E-1".toList := by decide +kernel
  refine ⟨t, ht, hblock, by decide +kernel, hE, ?_, ?_⟩
  · exact ((hiff "E" (hnone "E" (by decide))).2 hsign).2 ⟨_, by simp, hE⟩
  · rw [(hiff "X" (hnone "X" (by decide))).2 hsign]
    decide +kernel

/-- A search across lines goes wrong both ways: a command is taken for a name
that is tested for, and a test is passed over. -/
theorem exists_test_across_lines :
    (∃ t ∈ (ofText 4 ⟨.relative, ["Makefile"]⟩ "build:\nifdef\n\techo hi\nendif\n").targets,
      let recipe := Recipe.block (lines "build:\nifdef\n\techo hi\nendif\n".toList) t.name
      (∀ i, ¬ RefersAt (unlines recipe) i "echo") ∧
        "echo" ∈ t.mentions.map (·.name) ∧ ∀ line ∈ recipe, ¬ TestsLine "echo" line) ∧
    ∃ t ∈ (ofText 4 ⟨.relative, ["Makefile"]⟩ "build:\nifdef\nifdef X\nendif\n").targets,
      let recipe := Recipe.block (lines "build:\nifdef\nifdef X\nendif\n".toList) t.name
      (∀ i, ¬ RefersAt (unlines recipe) i "X") ∧
        "X" ∉ t.mentions.map (·.name) ∧ ∃ line ∈ recipe, TestsLine "X" line := by
  simp only [← not_mem_references_iff]
  exact ⟨by decide +kernel, by decide +kernel⟩

end Catalog
end MakeTools
