import MakeTools.Makefile.Recipe
import MakeTools.Proofs.Lexing

/-!
# MakeTools.Proofs.Mentions

Where a text refers to a variable, and where it tests for one.

A reference cannot overlap another, so that the references of a text are simply
all of them, from left to right (`inOrder_references`).  Tests can: a line
`ifdef` without a name takes the first word of the next line, and that line is
then no test.  The tests of a text are what a search finds that goes on, each
time, where the last test ended (`successive_tests`).

Either way the names that come of it are words (`isWord_of_mem_mentioned`).
-/

namespace MakeTools.Recipe

open Text Line

variable {s rest : List Char} {name : String}

/-! ## References -/

/-- A reference to the name stands at the head of the text. -/
def IsReference (name : String) (s : List Char) : Prop :=
  ∃ opening closing rest, s = '$' :: opening :: (name.toList ++ closing :: rest) ∧
    opening ∈ ['(', '\x7b'] ∧ closing ∈ [')', '\x7d'] ∧ IsWord name

theorem bracketed?_cons {opening : Char} (ho : opening ∈ ['(', '\x7b']) (s : List Char) :
    bracketed? (opening :: s) =
      match s.dropWhile isWordChar with
      | ')' :: _ | '\x7d' :: _ =>
        if (s.takeWhile isWordChar).isEmpty then none
        else some (String.ofList (s.takeWhile isWordChar))
      | _ => none := by
  simp only [List.mem_cons, List.not_mem_nil, or_false] at ho
  rcases ho with rfl | rfl <;> rfl

theorem bracketed?_eq_some_iff :
    bracketed? s = some name ↔
      ∃ opening closing rest, s = opening :: (name.toList ++ closing :: rest) ∧
        opening ∈ ['(', '\x7b'] ∧ closing ∈ [')', '\x7d'] ∧ IsWord name := by
  constructor
  · intro h
    obtain ⟨opening, t, rfl, ho⟩ : ∃ opening t, s = opening :: t ∧ opening ∈ ['(', '\x7b'] := by
      unfold bracketed? at h
      split at h <;> simp_all
    rw [bracketed?_cons ho] at h
    obtain ⟨closing, rest, hd, hc, hn⟩ : ∃ closing rest,
        t.dropWhile isWordChar = closing :: rest ∧ closing ∈ [')', '\x7d'] ∧
        (if (t.takeWhile isWordChar).isEmpty then none
          else some (String.ofList (t.takeWhile isWordChar))) = some name := by
      split at h <;> simp_all
    split at hn
    · contradiction
    · next hne =>
      obtain rfl := Option.some.inj hn
      refine ⟨opening, closing, rest, ?_, ho, hc, ?_, ?_⟩
      · rw [String.toList_ofList, ← hd, List.takeWhile_append_dropWhile]
      · rw [String.toList_ofList]
        exact fun he => hne (List.isEmpty_iff.2 he)
      · rw [String.toList_ofList]
        exact forall_mem_takeWhile _ _
  · rintro ⟨opening, closing, rest, rfl, ho, hc, hne, hw⟩
    have hh : (closing :: rest).head?.any isWordChar = false := by
      rw [List.head?_cons, Option.any_some]
      simp only [List.mem_cons, List.not_mem_nil, or_false] at hc
      rcases hc with rfl | rfl <;> decide
    rw [bracketed?_cons ho, takeWhile_append_of_head? hw hh, dropWhile_append_of_head? hw hh]
    simp only [List.mem_cons, List.not_mem_nil, or_false] at hc
    rcases hc with rfl | rfl <;> simp [hne]

theorem reference?_eq_some_iff : reference? s = some name ↔ IsReference name s := by
  unfold IsReference
  cases s with
  | nil => simp [reference?]
  | cons c s =>
      by_cases hc : c = '$'
      · subst hc
        simp only [reference?, bracketed?_eq_some_iff, List.cons.injEq, true_and]
      · simp [reference?, hc]

/-- A reference to the name stands at this place of the text. -/
def RefersAt (s : List Char) (i : Nat) (name : String) : Prop := IsReference name (s.drop i)

/-- The names of all places, from left to right, with no place left out. -/
def InOrder (At : Nat → String → Prop) (names : List String) : Prop :=
  ∃ places : List (Nat × String), places.Pairwise (fun p q => p.1 < q.1) ∧
    (∀ i name, (i, name) ∈ places ↔ At i name) ∧ names = places.map Prod.snd

/-- The references of a text are all that stand in it. -/
theorem inOrder_references (s : List Char) : InOrder (RefersAt s) (references s) := by
  induction s with
  | nil =>
      refine ⟨[], List.Pairwise.nil, fun i name => ?_, rfl⟩
      simp [RefersAt, IsReference]
  | cons c s ih =>
      obtain ⟨places, hp, hm, hn⟩ := ih
      have hp' : (places.map fun p => (p.1 + 1, p.2)).Pairwise (fun p q => p.1 < q.1) :=
        List.pairwise_map.2 (hp.imp Nat.succ_lt_succ)
      have hm' : ∀ i name, (i, name) ∈ places.map (fun p => (p.1 + 1, p.2)) ↔
          ∃ j, i = j + 1 ∧ RefersAt s j name := by
        intro i name
        simp only [List.mem_map, Prod.mk.injEq, Prod.exists, ← hm]
        constructor
        · rintro ⟨j, name', h, rfl, rfl⟩
          exact ⟨j, rfl, h⟩
        · rintro ⟨j, rfl, h⟩
          exact ⟨j, name, h, rfl, rfl⟩
      have hz : ∀ name, RefersAt (c :: s) 0 name ↔ reference? (c :: s) = some name :=
        fun name => reference?_eq_some_iff.symm
      cases hr : reference? (c :: s) with
      | none =>
          refine ⟨_, hp', ?_, by simp [references, hr, hn]⟩
          intro i name
          rw [hm']
          cases i with
          | zero => simp [hz, hr]
          | succ i => simp [RefersAt]
      | some first =>
          refine ⟨(0, first) :: _, List.pairwise_cons.2 ⟨?_, hp'⟩, ?_, by simp [references, hr, hn]⟩
          · intro p hmem
            obtain ⟨q, -, rfl⟩ := List.mem_map.1 hmem
            exact Nat.succ_pos _
          · intro i name
            rw [List.mem_cons, hm', Prod.mk.injEq]
            cases i with
            | zero => simp [hz, hr, eq_comm]
            | succ i => simp [RefersAt]

theorem mem_references_iff : name ∈ references s ↔ ∃ i, RefersAt s i name := by
  obtain ⟨places, -, hm, hn⟩ := inOrder_references s
  simp only [hn, List.mem_map, Prod.exists, exists_eq_right, hm]

/-! ## Existence tests -/

/-- The words that open an existence test. -/
def testWords : List (List Char) := [['i', 'f', 'd', 'e', 'f'], ['i', 'f', 'n', 'd', 'e', 'f']]

/-- A test for the name stands at the head of the text, and this follows it:
blanks, a test word, at least one blank, and the whole of a word. -/
def IsTest (name : String) (s rest : List Char) : Prop :=
  ∃ gap word gap', s = gap ++ (word ++ (gap' ++ (name.toList ++ rest))) ∧
    (∀ c ∈ gap, isBlank c = true) ∧ word ∈ testWords ∧
    gap' ≠ [] ∧ (∀ c ∈ gap', isBlank c = true) ∧
    IsWord name ∧ rest.head?.any isWordChar = false

theorem afterTest?_eq_some_iff :
    afterTest? s = some rest ↔ ∃ word ∈ testWords, s = word ++ rest := by
  have hd : "ifdef".toList = ['i', 'f', 'd', 'e', 'f'] := rfl
  have hn : "ifndef".toList = ['i', 'f', 'n', 'd', 'e', 'f'] := rfl
  simp only [afterTest?, hd, hn, Option.or_eq_some_iff, testWords, List.mem_cons, List.not_mem_nil,
    or_false, exists_eq_or_imp, exists_eq_left, isPrefixOf?_eq_some_iff]
  constructor
  · rintro (h | ⟨-, h⟩)
    · exact .inl h
    · exact .inr h
  · rintro (rfl | rfl)
    · exact .inl rfl
    · exact .inr ⟨rfl, rfl⟩

theorem word?_eq_some_iff :
    word? s = some (name, rest) ↔
      IsWord name ∧ s = name.toList ++ rest ∧ rest.head?.any isWordChar = false := by
  unfold word?
  constructor
  · intro h
    split at h
    · next hs =>
      obtain ⟨rfl, rfl⟩ := Prod.mk.inj (Option.some.inj h)
      rw [IsWord, String.toList_ofList]
      refine ⟨⟨?_, forall_mem_takeWhile _ _⟩, List.takeWhile_append_dropWhile.symm,
        head?_dropWhile _ _⟩
      cases s with
      | nil => simp at hs
      | cons c s => simp [show isWordChar c = true by simpa using hs]
    · contradiction
  · rintro ⟨⟨hne, hw⟩, rfl, hr⟩
    have hs : (name.toList ++ rest).head?.any isWordChar = true := by
      cases hl : name.toList with
      | nil => exact absurd hl hne
      | cons c w => simpa using hw c (by simp [hl])
    rw [if_pos hs, takeWhile_append_of_head? hw hr, dropWhile_append_of_head? hw hr,
      String.ofList_toList]

theorem trimLeft_word (hw : IsWord name) (rest : List Char) :
    trimLeft (name.toList ++ rest) = name.toList ++ rest := by
  obtain ⟨hne, hw⟩ := hw
  cases hl : name.toList with
  | nil => exact absurd hl hne
  | cons c w =>
      exact trimLeft_cons_of_not_isBlank _ (isBlank_eq_false_of_isWordChar (hw c (by simp [hl])))

theorem trimLeft_testWord {word : List Char} (hw : word ∈ testWords) (rest : List Char) :
    trimLeft (word ++ rest) = word ++ rest := by
  simp only [testWords, List.mem_cons, List.not_mem_nil, or_false] at hw
  rcases hw with rfl | rfl <;> exact trimLeft_cons_of_not_isBlank _ (by decide)

theorem test?_eq_some_iff : test? s = some (name, rest) ↔ IsTest name s rest := by
  unfold test?
  constructor
  · intro h
    split at h
    · next c behind ha =>
      split at h
      · next hc =>
        obtain ⟨word, hword, ht⟩ := afterTest?_eq_some_iff.1 ha
        obtain ⟨hname, hb, hr⟩ := word?_eq_some_iff.1 h
        obtain ⟨gap, hg, hs⟩ := exists_append_trimLeft s
        obtain ⟨gap', hg', hs'⟩ := exists_append_trimLeft behind
        refine ⟨gap, word, c :: gap', ?_, hg, hword, List.cons_ne_nil _ _,
          List.forall_mem_cons.2 ⟨hc, hg'⟩, hname, hr⟩
        rw [hs, ht, hs', hb]
        simp
      · contradiction
    · contradiction
  · rintro ⟨gap, word, gap', rfl, hg, hword, hne, hg', hname, hr⟩
    obtain ⟨c, gap'', rfl⟩ := List.exists_cons_of_ne_nil hne
    obtain ⟨hc, hg''⟩ := List.forall_mem_cons.1 hg'
    have ha : afterTest? (trimLeft (gap ++ (word ++ (c :: gap'' ++ (name.toList ++ rest))))) =
        some (c :: (gap'' ++ (name.toList ++ rest))) := by
      rw [trimLeft_append hg, trimLeft_testWord hword]
      exact afterTest?_eq_some_iff.2 ⟨word, hword, rfl⟩
    simp only [ha, hc, if_true, trimLeft_append hg'', trimLeft_word hname]
    exact word?_eq_some_iff.2 ⟨hname, rfl, hr⟩

/-- The last character of a test belongs to the name. -/
theorem IsTest.exists_eq_append (h : IsTest name s rest) :
    ∃ behind c, s = behind ++ c :: rest ∧ isWordChar c = true := by
  obtain ⟨gap, word, gap', rfl, -, -, -, -, ⟨hne, hw⟩, -⟩ := h
  obtain ⟨w, c, hname⟩ : ∃ w c, name.toList = w ++ [c] :=
    ⟨_, _, (List.dropLast_concat_getLast hne).symm⟩
  exact ⟨gap ++ (word ++ (gap' ++ w)), c, by simp [hname], hw c (by simp [hname])⟩

/-- A line starts at this place of the text. -/
def StartsLine (s : List Char) (i : Nat) : Prop := i = 0 ∨ s[i - 1]? = some '\n'

/-- A test for the name stands at the start of a line, between these places of
the text. -/
def TestsAt (s : List Char) (i j : Nat) (name : String) : Prop :=
  StartsLine s i ∧ j ≤ s.length ∧ IsTest name (s.drop i) (s.drop j)

/-- The tests that a search finds from a place on: the first one, and then
those that a search finds from its end on. -/
inductive Successive (s : List Char) : Nat → List String → Prop where
  | done {i : Nat} (none : ∀ k ≥ i, ∀ j name, ¬ TestsAt s k j name) : Successive s i []
  | next {i k j : Nat} {name : String} {names : List String} (le : i ≤ k)
      (test : TestsAt s k j name)
      (first : ∀ l, i ≤ l → l < k → ∀ j' name', ¬ TestsAt s l j' name')
      (rest : Successive s j names) : Successive s i (name :: names)

/-- A search may pass over a place where no test stands. -/
theorem Successive.of_succ {i : Nat} {names : List String} (hi : ∀ j name, ¬ TestsAt s i j name)
    (h : Successive s (i + 1) names) : Successive s i names := by
  have hle : ∀ {k}, i ≤ k → k = i ∨ i + 1 ≤ k := by omega
  cases h with
  | done none =>
      refine .done fun k hk => ?_
      rcases hle hk with rfl | hk
      · exact hi
      · exact none k hk
  | next le test first rest =>
      refine .next (Nat.le_of_succ_le le) test (fun l hl hlk => ?_) rest
      rcases hle hl with rfl | hl
      · exact hi
      · exact first l hl hlk

theorem startsLine_succ_iff {i : Nat} {c : Char} {t : List Char} (h : s.drop i = c :: t) :
    StartsLine s (i + 1) ↔ (c == '\n') = true := by
  have hc : s[i]? = some c := by rw [← List.head?_drop, h, List.head?_cons]
  simp [StartsLine, hc]

theorem testHere?_eq_some_iff {fresh : Bool} :
    testHere? fresh s = some (name, rest) ↔ fresh = true ∧ IsTest name s rest := by
  unfold testHere?
  cases fresh <;> simp [test?_eq_some_iff]

theorem testsFrom_of_testHere? {fresh : Bool} (h : testHere? fresh s = some (name, rest)) :
    testsFrom fresh s = name :: testsFrom false rest := by
  rw [testsFrom]
  split
  · next h' =>
    rw [h] at h'
    obtain ⟨rfl, rfl⟩ := Prod.mk.inj (Option.some.inj h')
    rfl
  · next h' =>
    rw [h] at h'
    contradiction

theorem testsFrom_nil (fresh : Bool) : testsFrom fresh [] = [] := by
  cases fresh <;> rw [testsFrom] <;> rfl

theorem testsFrom_cons {fresh : Bool} {c : Char} (h : testHere? fresh (c :: s) = none) :
    testsFrom fresh (c :: s) = testsFrom (c == '\n') s := by
  rw [testsFrom]
  split
  · next h' =>
    rw [h] at h'
    contradiction
  · rfl

/-- Wherever a search goes on, it finds what `testsFrom` gives of the rest. -/
theorem successive_testsFrom (s : List Char) (n : Nat) :
    ∀ (i : Nat) (fresh : Bool), (s.drop i).length = n → (fresh = true ↔ StartsLine s i) →
      Successive s i (testsFrom fresh (s.drop i)) := by
  induction n using Nat.strongRecOn with
  | _ n ih =>
    intro i fresh hn hf
    cases h : testHere? fresh (s.drop i) with
    | some found =>
        -- the search goes on behind a word character, so not at the start of a line
        obtain ⟨name, rest⟩ := found
        obtain ⟨hfresh, htest⟩ := testHere?_eq_some_iff.1 h
        obtain ⟨behind, c, hb, hc⟩ := htest.exists_eq_append
        have hd : s.drop (i + behind.length) = c :: rest := by
          rw [← List.drop_drop, hb, List.drop_left]
        have hr : s.drop (i + behind.length + 1) = rest := by
          rw [← List.drop_drop, hd, List.drop_one, List.tail_cons]
        have hlt : i + behind.length < s.length := by
          have hlen := congrArg List.length hd
          simp only [List.length_drop, List.length_cons] at hlen
          omega
        have hl : (s.drop (i + behind.length + 1)).length < n := by
          rw [← hn, List.length_drop, List.length_drop]
          omega
        have hnl : (c == '\n') = false := by
          rw [beq_eq_false_iff_ne]
          rintro rfl
          exact absurd hc (by decide)
        have hrest := ih _ hl _ false rfl (by rw [startsLine_succ_iff hd, hnl])
        rw [hr] at hrest
        rw [testsFrom_of_testHere? h]
        refine .next (Nat.le_refl i) ⟨hf.1 hfresh, hlt, by rw [hr]; exact htest⟩ ?_ hrest
        intro l hl hli
        omega
    | none =>
        have hno : ∀ j name, ¬ TestsAt s i j name := by
          rintro j name ⟨hs, -, ht⟩
          rw [testHere?_eq_some_iff.2 ⟨hf.2 hs, ht⟩] at h
          contradiction
        cases he : s.drop i with
        | nil =>
            rw [testsFrom_nil]
            refine .done fun k hk j name ht => ?_
            obtain ⟨-, -, ht⟩ := ht
            obtain ⟨behind, c, hb, -⟩ := ht.exists_eq_append
            have hk' : s.drop k = [] := by
              rw [List.drop_eq_nil_iff] at he ⊢
              omega
            simp [hk'] at hb
        | cons c t =>
            have ht : s.drop (i + 1) = t := by
              rw [← List.drop_drop, he, List.drop_one, List.tail_cons]
            have hl : (s.drop (i + 1)).length < n := by
              rw [← hn, ht, he, List.length_cons]
              omega
            have hrest := ih _ hl _ (c == '\n') rfl (startsLine_succ_iff he).symm
            rw [ht] at hrest
            rw [testsFrom_cons (he ▸ h)]
            exact hrest.of_succ hno

/-- The tests of a text are those that a search finds from its start on. -/
theorem successive_tests (s : List Char) : Successive s 0 (tests s) :=
  successive_testsFrom s s.length 0 true rfl (by simp [StartsLine])

/-! ## Names -/

theorem isWord_of_mem_references (h : name ∈ references s) : IsWord name := by
  obtain ⟨i, hi⟩ := mem_references_iff.1 h
  obtain ⟨-, -, -, -, -, -, hw⟩ := hi
  exact hw

/-- What a search finds stands in the text. -/
theorem Successive.exists_testsAt {i : Nat} {names : List String} (h : Successive s i names)
    (hm : name ∈ names) : ∃ k j, TestsAt s k j name := by
  induction h with
  | done none => exact absurd hm List.not_mem_nil
  | next le test first rest ih =>
      cases List.mem_cons.1 hm with
      | inl he => exact ⟨_, _, he ▸ test⟩
      | inr hm => exact ih hm

theorem Successive.isWord_of_mem {i : Nat} {names : List String} (h : Successive s i names)
    (hm : name ∈ names) : IsWord name := by
  obtain ⟨k, j, -, -, ht⟩ := h.exists_testsAt hm
  obtain ⟨-, -, -, -, -, -, -, -, hw, -⟩ := ht
  exact hw

/-- The names that a recipe mentions are words. -/
theorem isWord_of_mem_mentioned {recipe : List Line} (h : name ∈ mentioned recipe) :
    IsWord name := by
  rw [mentioned, List.mem_eraseDups, List.mem_append] at h
  rcases h with h | h
  · exact isWord_of_mem_references h
  · exact (successive_tests _).isWord_of_mem h

theorem nodup_eraseDups : (names : List String) → names.eraseDups.Nodup
  | [] => by simp
  | name :: names => by
      have hlen := List.length_filter_le (fun other => !other == name) names
      rw [List.eraseDups_cons, List.nodup_cons]
      exact ⟨by simp [List.mem_eraseDups], nodup_eraseDups _⟩
termination_by names => names.length

/-- References come first, and then the tests for other names. -/
theorem mentioned_eq_append (recipe : List Line) :
    mentioned recipe = (referred recipe).eraseDups ++
      ((tested recipe).filter fun name => !(referred recipe).contains name).eraseDups := by
  rw [mentioned, List.eraseDups_append, List.removeAll]

end MakeTools.Recipe
