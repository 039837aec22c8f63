import MakeTools.Proofs.Mentions

/-!
# MakeTools.Proofs.Tokens

Mentions, read off the words of a recipe.

A recipe is searched as one text, and the search for existence tests crosses
line ends.  What it finds is settled by less than the text: by its words in
order, each with a mark that says whether it is the first on its line
(`tests_eq_testsOf`).  A blank ends a word and a line feed starts a line, so
that the words of a recipe are those of its lines, one line after the other
(`tokensFrom_unlines`); no reference holds a blank, so that the same is true of
references (`references_unlines`).

What a recipe mentions thus depends on what each of its lines holds
(`mentioned_congr`), and a line without a word counts for nothing.
-/

namespace MakeTools.Recipe

open Text Line

/-! ## Words -/

/-- A character that belongs to a word: one that is not blank. -/
def isInk (c : Char) : Bool := !isBlank c

/-- A word of a text, and whether it is the first on its line. -/
structure Token where
  first : Bool
  chars : List Char
deriving DecidableEq

/-- The words of a text.  No word stands in front of it on the first line, if
`first`. -/
def tokensFrom (first : Bool) : List Char → List Token
  | [] => []
  | c :: s =>
    if isBlank c then tokensFrom (first || c == '\n') s
    else ⟨first, c :: s.takeWhile isInk⟩ :: tokensFrom false (s.dropWhile isInk)
termination_by s => s.length
decreasing_by
  · simp
  · have hle : (s.dropWhile isInk).length ≤ s.length := (List.dropWhile_sublist _).length_le
    simp only [List.length_cons]
    omega

/-- The words of a line. -/
def tokens (line : Line) : List Token := tokensFrom true line

variable {c : Char} {w s t rest gap : List Char} {first : Bool} {name : String}

theorem isInk_eq_true_iff : isInk c = true ↔ isBlank c = false := by simp [isInk]

theorem isInk_of_isWordChar (h : isWordChar c = true) : isInk c = true :=
  isInk_eq_true_iff.2 (isBlank_eq_false_of_isWordChar h)

@[simp] theorem tokensFrom_nil (first : Bool) : tokensFrom first [] = [] := by
  rw [tokensFrom]

theorem tokensFrom_cons_of_isBlank (hc : isBlank c = true) (first : Bool) (s : List Char) :
    tokensFrom first (c :: s) = tokensFrom (first || c == '\n') s := by
  rw [tokensFrom, if_pos hc]

/-- A run of ink is one word. -/
theorem tokensFrom_append (hne : w ≠ []) (hw : ∀ c ∈ w, isInk c = true)
    (hs : s.head?.any isInk = false) (first : Bool) :
    tokensFrom first (w ++ s) = ⟨first, w⟩ :: tokensFrom false s := by
  obtain ⟨c, w, rfl⟩ := List.exists_cons_of_ne_nil hne
  obtain ⟨hc, hw⟩ := List.forall_mem_cons.1 hw
  have hb : ¬ isBlank c = true := by simpa [isInk] using hc
  rw [List.cons_append, tokensFrom, if_neg hb, takeWhile_append_of_head? hw hs,
    dropWhile_append_of_head? hw hs]

/-- Blanks in front may only start a line. -/
theorem exists_tokensFrom_trimLeft (first : Bool) (s : List Char) :
    ∃ later, tokensFrom first s = tokensFrom later (trimLeft s) := by
  induction s generalizing first with
  | nil => exact ⟨first, rfl⟩
  | cons c s ih =>
      by_cases hc : isBlank c = true
      · obtain ⟨later, hl⟩ := ih (first || c == '\n')
        refine ⟨later, ?_⟩
        rw [tokensFrom_cons_of_isBlank hc, hl]
        simp [trimLeft, hc]
      · exact ⟨first, by simp [trimLeft, hc]⟩

/-- A blank ends a word, and a line feed starts a line. -/
theorem exists_tokensFrom_append_cons (hc : isBlank c = true) (first : Bool) (s t : List Char) :
    ∃ later, tokensFrom first (s ++ c :: t) =
      tokensFrom first s ++ tokensFrom (later || c == '\n') t := by
  fun_induction tokensFrom first s with
  | case1 first => exact ⟨first, tokensFrom_cons_of_isBlank hc first t⟩
  | case2 first d s hd ih =>
      obtain ⟨later, hl⟩ := ih
      exact ⟨later, by rw [List.cons_append, tokensFrom_cons_of_isBlank hd, hl]⟩
  | case3 first d s hd ih =>
      obtain ⟨later, hl⟩ := ih
      have hink : isInk c = false := by simp [isInk, hc]
      refine ⟨later, ?_⟩
      rw [List.cons_append, tokensFrom, if_neg hd, takeWhile_append_cons hink,
        dropWhile_append_cons hink, hl, List.cons_append]

/-- A line feed between two texts keeps their words apart, and starts a
line. -/
theorem tokensFrom_append_newline (first : Bool) (s t : List Char) :
    tokensFrom first (s ++ '\n' :: t) = tokensFrom first s ++ tokensFrom true t := by
  obtain ⟨later, hl⟩ := exists_tokensFrom_append_cons (c := '\n') (by decide) first s t
  rw [hl, beq_self_eq_true, Bool.or_true]

/-- A blank at the end belongs to no word. -/
theorem tokens_concat_of_isBlank (hc : isBlank c = true) (line : Line) :
    tokens (line ++ [c]) = tokens line := by
  obtain ⟨later, hl⟩ := exists_tokensFrom_append_cons hc true line []
  rw [tokens, hl, tokensFrom_nil, List.append_nil, tokens]

/-- A line of blanks has no word. -/
theorem tokens_of_forall_isBlank {line : Line} (h : ∀ c ∈ line, isBlank c = true) :
    tokens line = [] := by
  obtain ⟨later, hl⟩ := exists_tokensFrom_trimLeft true line
  have ht : trimLeft line = [] := List.dropWhile_eq_nil_iff.2 h
  rw [tokens, hl, ht, tokensFrom_nil]

/-- The words of lines are those of each line, one line after the other. -/
theorem tokensFrom_unlines (ls : List Line) : tokensFrom true (unlines ls) = ls.flatMap tokens := by
  induction ls with
  | nil => simp [unlines]
  | cons l ls ih =>
      cases ls with
      | nil => simp [unlines, tokens]
      | cons m ls =>
          rw [unlines_cons_cons, tokensFrom_append_newline, ih]
          rfl

/-- A text is empty, starts with a blank, or starts with a word. -/
theorem nil_or_blank_or_word (s : List Char) :
    s = [] ∨ (∃ c t, s = c :: t ∧ isBlank c = true) ∨
      ∃ w r, s = w ++ r ∧ w ≠ [] ∧ (∀ c ∈ w, isInk c = true) ∧ r.head?.any isInk = false := by
  cases s with
  | nil => exact .inl rfl
  | cons c s =>
      refine .inr ?_
      by_cases hc : isBlank c = true
      · exact .inl ⟨c, s, rfl, hc⟩
      · refine .inr ⟨(c :: s).takeWhile isInk, (c :: s).dropWhile isInk,
          List.takeWhile_append_dropWhile.symm, ?_, forall_mem_takeWhile _ _, head?_dropWhile _ _⟩
        simp [isInk, hc]

/-- Behind its blanks a text has nothing or a word. -/
theorem trimLeft_eq_nil_or_append (s : List Char) :
    trimLeft s = [] ∨ ∃ w r, trimLeft s = w ++ r ∧ w ≠ [] ∧ (∀ c ∈ w, isInk c = true) ∧
      r.head?.any isInk = false := by
  obtain h | ⟨c, t, h, hc⟩ | h := nil_or_blank_or_word (trimLeft s)
  · exact .inl h
  · have hb := head?_dropWhile isBlank s
    rw [← trimLeft, h] at hb
    simp [hc] at hb
  · exact .inr h

/-! ## Tests -/

/-- The name that a word begins with. -/
def Token.name? (token : Token) : Option String := (word? token.chars).map Prod.fst

/-- Does the word open a test, if a name follows it? -/
def Token.opensTest (token : Token) : Bool := token.first && testWords.contains token.chars

/-- The names that words test for: each name behind a test word that is the
first on its line.  The word with the name is passed over. -/
def testsOf : List Token → List String
  | [] => []
  | [_] => []
  | token :: next :: rest =>
    match if token.opensTest then next.name? else none with
    | some name => name :: testsOf rest
    | none => testsOf (next :: rest)

theorem testsOf_cons_of_opensTest {token : Token} {ts : List Token} (ho : token.opensTest = true)
    (hn : ts.head?.bind Token.name? = some name) :
    testsOf (token :: ts) = name :: testsOf ts.tail := by
  cases ts with
  | nil => simp at hn
  | cons next ts =>
      have hn : next.name? = some name := by simpa using hn
      simp [testsOf, ho, hn]

theorem testsOf_cons {token : Token} {ts : List Token}
    (h : token.opensTest = true → ts.head?.bind Token.name? = none) :
    testsOf (token :: ts) = testsOf ts := by
  cases ts with
  | nil => rfl
  | cons next ts =>
      have h : (if token.opensTest then next.name? else none) = none := by
        split
        · next ho => simpa using h ho
        · rfl
      simp [testsOf, h]

/-- Where no test stands, it makes no difference whether one may. -/
theorem testsFrom_eq_of_testHere? (h : testHere? first s = none) :
    testsFrom first s = testsFrom false s := by
  cases s with
  | nil => rw [testsFrom_nil, testsFrom_nil]
  | cons c s => rw [testsFrom_cons h, testsFrom_cons rfl]

/-- No test starts within a word or on the same line behind it. -/
theorem testsFrom_false_append (hw : ∀ c ∈ w, isInk c = true) (s : List Char) :
    testsFrom false (w ++ s) = testsFrom false s := by
  induction w with
  | nil => rfl
  | cons c w ih =>
      obtain ⟨hc, hw⟩ := List.forall_mem_cons.1 hw
      have hn : (c == '\n') = false := by
        rw [beq_eq_false_iff_ne]
        rintro rfl
        exact absurd hc (by decide)
      rw [List.cons_append, testsFrom_cons rfl, hn, ih hw]

/-- A blank in front may only start a line. -/
theorem testsFrom_cons_of_isBlank (hc : isBlank c = true) (first : Bool) (s : List Char) :
    testsFrom first (c :: s) = testsFrom (first || c == '\n') s := by
  cases first with
  | false => rw [testsFrom_cons rfl, Bool.false_or]
  | true =>
      have htest : testHere? true (c :: s) = testHere? true s := by
        simp [testHere?, test?, trimLeft, hc]
      cases h : testHere? true s with
      | some found =>
          obtain ⟨name, rest⟩ := found
          rw [testsFrom_of_testHere? (htest.trans h), Bool.true_or, testsFrom_of_testHere? h]
      | none =>
          rw [testsFrom_cons (htest.trans h), Bool.true_or, testsFrom_eq_of_testHere? h]
          cases c == '\n' with
          | true => exact testsFrom_eq_of_testHere? h
          | false => rfl

/-- A test word is a whole word, and the name follows behind the blanks. -/
theorem test?_append (hne : w ≠ []) (hw : ∀ c ∈ w, isInk c = true)
    (hs : s.head?.any isInk = false) :
    test? (w ++ s) = if w ∈ testWords then word? (trimLeft s) else none := by
  ext found
  obtain ⟨name, rest⟩ := found
  rw [test?_eq_some_iff, Option.ite_none_right_eq_some, word?_eq_some_iff]
  constructor
  · rintro ⟨gap, word, gap', h, hg, hword, hne', hg', hname, hr⟩
    have hink : ∀ c ∈ word, isInk c = true := by
      have hall : (testWords.all fun word => word.all isInk) = true := by decide
      exact List.all_eq_true.1 (List.all_eq_true.1 hall word hword)
    have hstart : trimLeft (w ++ s) = w ++ s := by
      obtain ⟨c, w, rfl⟩ := List.exists_cons_of_ne_nil hne
      exact trimLeft_cons_of_not_isBlank _ (isInk_eq_true_iff.1 (hw c List.mem_cons_self))
    have hl : w ++ s = word ++ (gap' ++ (name.toList ++ rest)) := by
      have ht := congrArg trimLeft h
      rwa [trimLeft_append hg, trimLeft_testWord hword, hstart] at ht
    have hgap : (gap' ++ (name.toList ++ rest)).head?.any isInk = false := by
      obtain ⟨b, gap', rfl⟩ := List.exists_cons_of_ne_nil hne'
      simp [isInk, hg' b List.mem_cons_self]
    obtain rfl : w = word := by
      have ht := congrArg (List.takeWhile isInk) hl
      rwa [takeWhile_append_of_head? hw hs, takeWhile_append_of_head? hink hgap] at ht
    have ht := List.append_cancel_left hl
    exact ⟨hword, hname, by rw [ht, trimLeft_append hg', trimLeft_word hname], hr⟩
  · rintro ⟨hword, hname, ht, hr⟩
    obtain ⟨gap', hg', hl⟩ := exists_append_trimLeft s
    refine ⟨[], w, gap', by rw [← ht, ← hl]; rfl, by simp, hword, ?_, hg', hname, hr⟩
    rintro rfl
    -- without a blank in between, the name would be part of the word
    obtain ⟨hne', hw'⟩ := hname
    obtain ⟨d, n, hn⟩ := List.exists_cons_of_ne_nil hne'
    have hd : isInk d = true := isInk_of_isWordChar (hw' d (by simp [hn]))
    rw [hl, ht, hn] at hs
    simp [hd] at hs

/-- A name ends with its word at the latest. -/
theorem word?_append (hs : s.head?.any isInk = false) (w : List Char) :
    word? (w ++ s) = (word? w).map fun found => (found.1, found.2 ++ s) := by
  cases s with
  | nil => simp
  | cons d s =>
      have hd : isWordChar d = false := by
        by_contra h
        rw [Bool.not_eq_false] at h
        simp [isInk_of_isWordChar h] at hs
      have hh : (w ++ d :: s).head?.any isWordChar = w.head?.any isWordChar := by
        cases w <;> simp [hd]
      rw [word?, word?, hh, takeWhile_append_cons hd, dropWhile_append_cons hd]
      split <;> rfl

/-- The name behind blanks is the one that the next word begins with. -/
theorem head?_tokensFrom_bind_name? (first : Bool) (s : List Char) :
    (tokensFrom first s).head?.bind Token.name? = (word? (trimLeft s)).map Prod.fst := by
  obtain ⟨later, hl⟩ := exists_tokensFrom_trimLeft first s
  rw [hl]
  rcases trimLeft_eq_nil_or_append s with ht | ⟨w, r, ht, hne, hw, hr⟩
  · simp [ht, word?]
  · rw [ht, tokensFrom_append hne hw hr, word?_append hr]
    simp [Token.name?, Function.comp_def]

/-- Behind a name the search goes on behind the word. -/
theorem exists_tail_tokensFrom (first : Bool) (h : word? (trimLeft s) = some (name, rest)) :
    ∃ t, t.length ≤ s.length ∧ testsFrom false rest = testsFrom false t ∧
      (tokensFrom first s).tail = tokensFrom false t := by
  obtain ⟨later, hl⟩ := exists_tokensFrom_trimLeft first s
  rcases trimLeft_eq_nil_or_append s with ht | ⟨w, r, ht, hne, hw, hr⟩
  · simp [ht, word?] at h
  · have hle : r.length ≤ s.length := by
      have hlen := length_trimLeft_le s
      rw [ht, List.length_append] at hlen
      omega
    refine ⟨r, hle, ?_, by rw [hl, ht, tokensFrom_append hne hw hr, List.tail_cons]⟩
    rw [ht, word?_append hr] at h
    obtain ⟨⟨name', end'⟩, hword, he⟩ := Option.map_eq_some_iff.1 h
    obtain ⟨rfl, rfl⟩ := Prod.mk.inj he
    obtain ⟨-, hsplit, -⟩ := word?_eq_some_iff.1 hword
    exact testsFrom_false_append (fun c hc => hw c (by simp [hsplit, hc])) r

/-- The tests of a text are those of its words. -/
theorem testsFrom_eq_testsOf (n : Nat) :
    ∀ (first : Bool) (s : List Char), s.length = n →
      testsFrom first s = testsOf (tokensFrom first s) := by
  induction n using Nat.strongRecOn with
  | _ n ih =>
    intro first s hn
    obtain rfl | ⟨c, t, rfl, hc⟩ | ⟨w, r, rfl, hne, hw, hr⟩ := nil_or_blank_or_word s
    · rw [testsFrom_nil, tokensFrom_nil, testsOf]
    · rw [testsFrom_cons_of_isBlank hc, tokensFrom_cons_of_isBlank hc]
      exact ih t.length (by simp [← hn]) _ t rfl
    · have hlt : r.length < n := by
        have := List.length_pos_iff.2 hne
        rw [← hn, List.length_append]
        omega
      have hhere : testHere? first (w ++ r) =
          if (Token.mk first w).opensTest then word? (trimLeft r) else none := by
        cases first <;> simp [testHere?, Token.opensTest, test?_append hne hw hr]
      rw [tokensFrom_append hne hw hr]
      cases h : testHere? first (w ++ r) with
      | none =>
          rw [testsFrom_eq_of_testHere? h, testsFrom_false_append hw, testsOf_cons]
          · exact ih r.length hlt false r rfl
          · intro ho
            rw [hhere, if_pos ho] at h
            rw [head?_tokensFrom_bind_name?, h, Option.map_none]
      | some found =>
          obtain ⟨name, rest⟩ := found
          obtain ⟨ho, hw⟩ := Option.ite_none_right_eq_some.1 (hhere.symm.trans h)
          obtain ⟨t, hle, ht, htail⟩ := exists_tail_tokensFrom false hw
          have hname : (tokensFrom false r).head?.bind Token.name? = some name := by
            rw [head?_tokensFrom_bind_name?, hw, Option.map_some]
          rw [testsFrom_of_testHere? h, testsOf_cons_of_opensTest ho hname, htail, ht]
          exact congrArg _ (ih t.length (by omega) false t rfl)

theorem tests_eq_testsOf (s : List Char) : tests s = testsOf (tokensFrom true s) :=
  testsFrom_eq_testsOf s.length true s rfl

/-! ## References -/

theorem bracketed?_eq_none {opening : Char} (h : opening ∉ ['(', '\x7b']) (s : List Char) :
    bracketed? (opening :: s) = none := by
  simp only [List.mem_cons, List.not_mem_nil, or_false, not_or] at h
  simp [bracketed?, h.1, h.2]

/-- The brackets and the name between them hold no blank. -/
theorem bracketed?_append_cons (hc : isBlank c = true) (s t : List Char) :
    bracketed? (s ++ c :: t) = bracketed? s := by
  have hopening : c ∉ ['(', '\x7b'] := not_mem_of_isBlank hc (by decide)
  have hclosing : c ∉ [')', '\x7d'] := not_mem_of_isBlank hc (by decide)
  cases s with
  | nil => exact bracketed?_eq_none hopening t
  | cons opening s =>
      rw [List.cons_append]
      by_cases ho : opening ∈ ['(', '\x7b']
      · have hword := isWordChar_eq_false_of_isBlank hc
        rw [bracketed?_cons ho, bracketed?_cons ho, takeWhile_append_cons hword,
          dropWhile_append_cons hword]
        cases s.dropWhile isWordChar with
        | nil => simp_all
        | cons closing rest =>
            rw [List.cons_append]
            by_cases hr : closing = ')'
            · subst hr
              rfl
            · by_cases hb : closing = '\x7d'
              · subst hb
                rfl
              · simp [hr, hb]
      · rw [bracketed?_eq_none ho, bracketed?_eq_none ho]

/-- A reference holds no blank: the references of a text are those on both sides
of it. -/
theorem references_append_cons (hc : isBlank c = true) (s t : List Char) :
    references (s ++ c :: t) = references s ++ references t := by
  induction s with
  | nil =>
      have hd : reference? (c :: t) = none := by
        simp [reference?, ne_of_isBlank hc (show isBlank '$' = false by decide)]
      simp [references, hd]
  | cons d s ih =>
      have hd : reference? (d :: (s ++ c :: t)) = reference? (d :: s) := by
        by_cases hd : d = '$'
        · subst hd
          exact bracketed?_append_cons hc s t
        · simp [reference?, hd]
      rw [List.cons_append, references, hd, ih, references, List.append_assoc]

/-- A blank at the end belongs to no reference. -/
theorem references_concat_of_isBlank (hc : isBlank c = true) (line : Line) :
    references (line ++ [c]) = references line := by
  rw [references_append_cons hc, references, List.append_nil]

/-- A line of blanks refers to nothing. -/
theorem references_of_forall_isBlank {line : Line} (h : ∀ c ∈ line, isBlank c = true) :
    references line = [] := by
  induction line with
  | nil => rfl
  | cons c line ih =>
      obtain ⟨hc, hline⟩ := List.forall_mem_cons.1 h
      simpa [references, ih hline] using references_append_cons hc [] line

/-- The references of lines are those of each line, one line after the
other. -/
theorem references_unlines (ls : List Line) : references (unlines ls) = ls.flatMap references := by
  induction ls with
  | nil => rfl
  | cons l ls ih =>
      cases ls with
      | nil => simp [unlines]
      | cons m ls =>
          rw [unlines_cons_cons, references_append_cons (by decide), ih]
          rfl

/-! ## Recipes -/

theorem referred_eq (recipe : List Line) : referred recipe = recipe.flatMap references :=
  references_unlines recipe

theorem tested_eq (recipe : List Line) : tested recipe = testsOf (recipe.flatMap tokens) := by
  rw [tested, tests_eq_testsOf, tokensFrom_unlines]

/-- What a recipe mentions depends on the references and the words of its
lines. -/
theorem mentioned_congr {recipe recipe' : List Line}
    (hr : recipe.flatMap references = recipe'.flatMap references)
    (ht : recipe.flatMap tokens = recipe'.flatMap tokens) :
    mentioned recipe = mentioned recipe' := by
  simp only [mentioned, referred_eq, tested_eq, hr, ht]

end MakeTools.Recipe
