/-!
# MakeTools.Text.Blank

Blank characters, and the two things the library does with them: trimming a
text and cutting it into blank-separated fields.

The class is wider than ASCII white space: the four information separators,
the next-line character, the no-break space and every Unicode space or line
separator are blank.
-/

namespace MakeTools.Text

/-- The blank characters. -/
def isBlank (c : Char) : Bool :=
  let n := c.toNat
  (9 ≤ n && n ≤ 13) || (28 ≤ n && n ≤ 32) || n == 0x85 || n == 0xA0 || n == 0x1680 ||
    (0x2000 ≤ n && n ≤ 0x200A) || n == 0x2028 || n == 0x2029 || n == 0x202F ||
    n == 0x205F || n == 0x3000

/-- A blank is none of the characters that are not blank. -/
theorem ne_of_isBlank {c d : Char} (hc : isBlank c = true) (hd : isBlank d = false) : c ≠ d := by
  rintro rfl
  rw [hd] at hc
  contradiction

theorem not_mem_of_isBlank {c : Char} {s : List Char} (hc : isBlank c = true)
    (hs : s.any isBlank = false) : c ∉ s :=
  fun hm => List.any_eq_false.1 hs c hm hc

/-! ## Trimming -/

/-- Drop the blanks in front. -/
def trimLeft (s : List Char) : List Char := s.dropWhile isBlank

/-- Drop the blanks at the end. -/
def trimRight (s : List Char) : List Char := (s.reverse.dropWhile isBlank).reverse

/-- Drop the blanks at both ends. -/
def trim (s : List Char) : List Char := trimRight (trimLeft s)

/-- A blank in front of a text is trimmed away. -/
theorem trim_cons_of_isBlank {c : Char} (s : List Char) (h : isBlank c) :
    trim (c :: s) = trim s := by
  simp [trim, trimLeft, h]

/-- Nothing is left of blanks. -/
theorem trim_eq_nil {s : List Char} (h : ∀ c ∈ s, isBlank c = true) : trim s = [] := by
  induction s with
  | nil => rfl
  | cons c s ih =>
    obtain ⟨hc, hs⟩ := List.forall_mem_cons.1 h
    rw [trim_cons_of_isBlank s hc, ih hs]

/-- Trimming makes no text longer. -/
theorem length_trimLeft_le (s : List Char) : (trimLeft s).length ≤ s.length :=
  (List.dropWhile_sublist _).length_le

/-- A blank behind a text is trimmed away. -/
theorem trimRight_concat_of_isBlank {c : Char} (s : List Char) (h : isBlank c) :
    trimRight (s ++ [c]) = trimRight s := by
  simp [trimRight, h]

/-- Blanks in front of a text are trimmed away. -/
theorem trimLeft_append {gap : List Char} (h : ∀ c ∈ gap, isBlank c = true) (s : List Char) :
    trimLeft (gap ++ s) = trimLeft s :=
  List.dropWhile_append_of_pos h

/-- Nothing is trimmed in front of a character that is not blank. -/
theorem trimLeft_cons_of_not_isBlank {c : Char} (s : List Char) (h : isBlank c = false) :
    trimLeft (c :: s) = c :: s := by
  simp [trimLeft, h]

/-- A blank at the end of a text is trimmed away, whatever stands in front. -/
theorem trim_concat_of_isBlank {c : Char} (hc : isBlank c = true) (s : List Char) :
    trim (s ++ [c]) = trim s := by
  induction s with
  | nil => rw [List.nil_append, trim_cons_of_isBlank [] hc]
  | cons d s ih =>
    by_cases hd : isBlank d = true
    · rw [List.cons_append, trim_cons_of_isBlank _ hd, ih, trim_cons_of_isBlank _ hd]
    · rw [Bool.not_eq_true] at hd
      rw [trim, trim, List.cons_append, trimLeft_cons_of_not_isBlank _ hd,
        trimLeft_cons_of_not_isBlank _ hd, ← List.cons_append, trimRight_concat_of_isBlank _ hc]

/-- A text is its trimmed form behind blanks. -/
theorem exists_append_trimLeft (s : List Char) :
    ∃ gap, (∀ c ∈ gap, isBlank c = true) ∧ s = gap ++ trimLeft s :=
  ⟨s.takeWhile isBlank, List.all_eq_true.1 List.all_takeWhile, List.takeWhile_append_dropWhile.symm⟩

/-- Trimming at the end leaves everything up to a character that is not
blank. -/
theorem trimRight_append_cons_of_not_isBlank {c : Char} (s t : List Char)
    (h : isBlank c = false) : trimRight (s ++ c :: t) = s ++ c :: trimRight t := by
  have hr : (s ++ c :: t).reverse = t.reverse ++ c :: s.reverse := by simp
  simp only [trimRight, hr, List.dropWhile_append, List.dropWhile_cons, h]
  split <;> simp_all

/-- A text is its trimmed form in front of blanks. -/
theorem exists_trimRight_append (s : List Char) :
    ∃ gap, (∀ c ∈ gap, isBlank c = true) ∧ s = trimRight s ++ gap := by
  obtain ⟨gap, hg, hs⟩ := exists_append_trimLeft s.reverse
  refine ⟨gap.reverse, fun c hc => hg c (List.mem_reverse.1 hc), ?_⟩
  rw [trimRight, ← List.reverse_append, ← trimLeft, ← hs, List.reverse_reverse]

/-- Trimming takes no character away that is not blank. -/
theorem mem_trim_iff_of_not_isBlank {c : Char} {s : List Char} (h : isBlank c = false) :
    c ∈ trim s ↔ c ∈ s := by
  obtain ⟨before, hb, hs⟩ := exists_append_trimLeft s
  obtain ⟨behind, hd, ht⟩ := exists_trimRight_append (trimLeft s)
  have hnb : c ∉ before := fun hc => by rw [hb c hc] at h; contradiction
  have hnd : c ∉ behind := fun hc => by rw [hd c hc] at h; contradiction
  calc c ∈ trim s
    _ ↔ c ∈ trimRight (trimLeft s) ++ behind := by simp [trim, hnd]
    _ ↔ c ∈ before ++ trimLeft s := by simp [← ht, hnb]
    _ ↔ c ∈ s := by rw [← hs]

/-! ## Fields -/

/-- The blank-separated fields of a text: its longest runs without a blank. -/
def fields (s : List Char) : List String :=
  ((s.splitOnP isBlank).filter fun w => !w.isEmpty).map String.ofList

end MakeTools.Text
