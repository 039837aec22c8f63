import MakeTools.Proofs.Names

/-!
# MakeTools.Proofs.Lexing

What the recognisers of a line accept, said without scanning.

A recogniser reads the longest run of one class of characters, then of
another.  The classes that meet are disjoint (`isBlank_eq_false_of_isNameChar`),
so each run ends where the next one begins and the parts of a line are
determined by the line.  Parts are also told apart by a separator that does not
occur in them (`append_cons_inj`).  Each recogniser gets one `_iff` lemma that
writes the line as the parts it is made of; what follows from them needs no
scan.
-/

namespace MakeTools

open Text

/-! ## Runs -/

namespace Text

variable {p : Char → Bool} {w s : List Char}

/-- A run ends in front of a character of another class. -/
theorem takeWhile_append_of_head? (hw : ∀ c ∈ w, p c = true) (hs : s.head?.any p = false) :
    (w ++ s).takeWhile p = w := by
  have hn : s.takeWhile p = [] := by
    cases s with
    | nil => rfl
    | cons c s => simpa using hs
  rw [List.takeWhile_append_of_pos hw, hn, List.append_nil]

theorem dropWhile_append_of_head? (hw : ∀ c ∈ w, p c = true) (hs : s.head?.any p = false) :
    (w ++ s).dropWhile p = s := by
  rw [List.dropWhile_append_of_pos hw]
  cases s with
  | nil => rfl
  | cons c s => simpa using hs

theorem head?_dropWhile (p : Char → Bool) (s : List Char) :
    (s.dropWhile p).head?.any p = false := by
  induction s with
  | nil => rfl
  | cons c s ih =>
      rw [List.dropWhile_cons]
      cases h : p c with
      | true => simpa using ih
      | false => simp [h]

theorem forall_mem_takeWhile (p : Char → Bool) (s : List Char) :
    ∀ c ∈ s.takeWhile p, p c = true := fun _ hc => List.mem_takeWhile_imp hc

/-- What stands behind a character of another class does not lengthen a
run. -/
theorem takeWhile_append_cons {c : Char} (hc : p c = false) (s t : List Char) :
    (s ++ c :: t).takeWhile p = s.takeWhile p := by
  induction s with
  | nil => simp [hc]
  | cons d s ih =>
      rw [List.cons_append, List.takeWhile_cons, List.takeWhile_cons, ih]

theorem dropWhile_append_cons {c : Char} (hc : p c = false) (s t : List Char) :
    (s ++ c :: t).dropWhile p = s.dropWhile p ++ c :: t := by
  induction s with
  | nil => simp [hc]
  | cons d s ih =>
      rw [List.cons_append, List.dropWhile_cons, List.dropWhile_cons, ih]
      split <;> rfl

/-! ## Separators -/

/-- Cutting a text takes nothing away but the characters at which it is cut. -/
theorem flatten_splitOnP (p : Char → Bool) (s : List Char) :
    (s.splitOnP p).flatten = s.filter fun c => !p c := by
  induction s with
  | nil => simp
  | cons c s ih =>
      obtain ⟨l, ls, hl⟩ := List.exists_cons_of_ne_nil (List.splitOnP_ne_nil p s)
      rw [List.splitOnP_cons_eq_if_modifyHead]
      cases hc : p c with
      | true => simpa [hc] using ih
      | false =>
          rw [hl] at ih ⊢
          simpa [hc] using ih

theorem exists_mem_splitOnP_iff {c : Char} :
    (∃ piece ∈ s.splitOnP p, c ∈ piece) ↔ c ∈ s ∧ p c = false := by
  rw [← List.mem_flatten, flatten_splitOnP, List.mem_filter, Bool.not_eq_true']

/-- A field has no blank in it. -/
theorem isBlank_eq_false_of_mem_fields {field : String} (h : field ∈ fields s) :
    ∀ c ∈ field.toList, isBlank c = false := by
  obtain ⟨run, hrun, rfl⟩ := List.mem_map.1 h
  rw [String.toList_ofList]
  intro c hc
  exact (exists_mem_splitOnP_iff.1 ⟨run, (List.mem_filter.1 hrun).1, hc⟩).2

/-- Two texts that are the same up to a separator are read back at its first
place. -/
theorem append_cons_inj {c : Char} {s s' t t' : List Char} (hs : c ∉ s) (hs' : c ∉ s')
    (h : s ++ c :: t = s' ++ c :: t') : s = s' ∧ t = t' := by
  have hbefore : ∀ u : List Char, c ∉ u → ∀ d ∈ u, (d != c) = true := by
    intro u hu d hd
    rw [bne_iff_ne]
    intro he
    exact hu (he ▸ hd)
  have hc : ∀ t, (c :: t).head?.any (· != c) = false := by simp
  have hw := congrArg (List.takeWhile (· != c)) h
  rw [takeWhile_append_of_head? (hbefore s hs) (hc t),
    takeWhile_append_of_head? (hbefore s' hs') (hc t')] at hw
  subst hw
  exact ⟨rfl, (List.cons.inj (List.append_cancel_left h)).2⟩

theorem toList_intercalate_comma (w v : String) (vs : List String) :
    (", ".intercalate (w :: v :: vs)).toList =
      (w.toList ++ [',']) ++ ' ' :: (", ".intercalate (v :: vs)).toList := by
  rw [String.intercalate_cons_cons]
  simp

theorem space_mem_intercalate_comma (w v : String) (vs : List String) :
    ' ' ∈ (", ".intercalate (w :: v :: vs)).toList := by
  rw [toList_intercalate_comma]
  simp

/-- Texts without a space can be read back from a list of them with commas and
spaces between them, unless there are none. -/
theorem intercalate_comma_inj {ws ws' : List String} (h : ∀ w ∈ ws, ' ' ∉ w.toList)
    (h' : ∀ w ∈ ws', ' ' ∉ w.toList) (hne : ws ≠ []) (hne' : ws' ≠ []) :
    ", ".intercalate ws = ", ".intercalate ws' ↔ ws = ws' := by
  refine ⟨fun he => ?_, fun he => by rw [he]⟩
  induction ws generalizing ws' with
  | nil => exact absurd rfl hne
  | cons w ws ih =>
      obtain ⟨w', ws', rfl⟩ := List.exists_cons_of_ne_nil hne'
      obtain ⟨hw, hws⟩ := List.forall_mem_cons.1 h
      obtain ⟨hw', hws'⟩ := List.forall_mem_cons.1 h'
      cases ws with
      | nil =>
          cases ws' with
          | nil => simpa using he
          | cons v' vs' =>
              have hm := space_mem_intercalate_comma w' v' vs'
              rw [← he, String.intercalate_singleton] at hm
              exact absurd hm hw
      | cons v vs =>
          cases ws' with
          | nil =>
              have hm := space_mem_intercalate_comma w v vs
              rw [he, String.intercalate_singleton] at hm
              exact absurd hm hw'
          | cons v' vs' =>
              have hcut := congrArg String.toList he
              rw [toList_intercalate_comma, toList_intercalate_comma] at hcut
              obtain ⟨hhead, htail⟩ := append_cons_inj (by simpa using hw) (by simpa using hw') hcut
              obtain rfl := String.toList_injective (List.append_cancel_right hhead)
              rw [ih hws hws' (List.cons_ne_nil _ _) (List.cons_ne_nil _ _)
                (String.toList_injective htail)]

end Text

namespace Line

/-! ## Classes of characters -/

theorem isNameChar_of_isWordChar {c : Char} (h : isWordChar c = true) : isNameChar c = true := by
  simp [isNameChar, h]

/-- The characters of names lie between the hyphen and the letter z. -/
theorem toNat_of_isNameChar {c : Char} (h : isNameChar c = true) :
    45 ≤ c.toNat ∧ c.toNat ≤ 122 := by
  have ha : c.isAlphanum = (decide (65 ≤ c.val ∧ c.val ≤ 90) ||
      (decide (97 ≤ c.val) && decide (c.val ≤ 122)) ||
      (decide (48 ≤ c.val) && decide (c.val ≤ 57))) := rfl
  have hc : c.toNat = c.val.toNat := rfl
  simp only [isNameChar, isWordChar, ha, Bool.or_eq_true, Bool.and_eq_true, decide_eq_true_eq,
    beq_iff_eq, UInt32.le_iff_toNat_le] at h
  rcases h with (h | rfl) | rfl
  · simp at h
    omega
  · decide
  · decide

/-- A character of a name is not blank. -/
theorem isBlank_eq_false_of_isNameChar {c : Char} (h : isNameChar c = true) :
    isBlank c = false := by
  obtain ⟨hl, hu⟩ := toNat_of_isNameChar h
  simp [isBlank]
  omega

theorem isBlank_eq_false_of_isWordChar {c : Char} (h : isWordChar c = true) :
    isBlank c = false :=
  isBlank_eq_false_of_isNameChar (isNameChar_of_isWordChar h)

theorem isBlank_eq_false_of_isNameStart {c : Char} (h : isNameStart c = true) :
    isBlank c = false :=
  isBlank_eq_false_of_isNameChar (isNameChar_of_isNameStart h)

theorem isNameChar_eq_false_of_isBlank {c : Char} (h : isBlank c = true) :
    isNameChar c = false := by
  by_contra hn
  rw [Bool.not_eq_false] at hn
  rw [isBlank_eq_false_of_isNameChar hn] at h
  contradiction

theorem isWordChar_eq_false_of_isBlank {c : Char} (h : isBlank c = true) :
    isWordChar c = false := by
  by_contra hn
  rw [Bool.not_eq_false] at hn
  rw [isBlank_eq_false_of_isWordChar hn] at h
  contradiction

/-- A word character opens a name unless it is a digit. -/
theorem isNameStart_of_isWordChar {c : Char} (h : isWordChar c = true)
    (hd : c.isDigit = false) : isNameStart c = true := by
  simpa [isNameStart, isWordChar, Char.isAlphanum, hd] using h

/-- Behind a name stand blanks and a character that is no part of a name: the
name ends there. -/
theorem head?_append_any_isNameChar {gap : List Char} (hg : ∀ c ∈ gap, isBlank c = true) {c : Char}
    (hc : isNameChar c = false) (s : List Char) :
    (gap ++ c :: s).head?.any isNameChar = false := by
  cases gap with
  | nil => simpa using hc
  | cons b gap => simpa using isNameChar_eq_false_of_isBlank (hg b List.mem_cons_self)

/-! ## Assignments -/

/-- A word: the name of a variable as a Makefile writes it. -/
def IsWord (name : String) : Prop := name.toList ≠ [] ∧ ∀ c ∈ name.toList, isWordChar c = true

instance (name : String) : Decidable (IsWord name) := inferInstanceAs (Decidable (_ ∧ _))

/-- The signs of an assignment.  No difference is made between them. -/
def assignSigns : List (List Char) := [['?', '='], [':', '='], ['=']]

theorem afterAssign?_eq_some_iff {s rest : List Char} :
    afterAssign? s = some rest ↔ ∃ sign ∈ assignSigns, s = sign ++ rest := by
  unfold afterAssign?
  split <;> simp_all [assignSigns, eq_comm]

/-- The line gives a value to a name: the name, blanks, an assignment sign, and
the value. -/
def Gives (name value : String) (line : Line) : Prop :=
  ∃ gap sign rest, line = name.toList ++ (gap ++ (sign ++ rest)) ∧
    (∀ c ∈ gap, isBlank c = true) ∧ sign ∈ assignSigns ∧ value = String.ofList (trim rest)

/-- No part of a name and no blank opens an assignment sign. -/
theorem exists_cons_of_mem_assignSigns {sign : List Char} (h : sign ∈ assignSigns) :
    ∃ c s, sign = c :: s ∧ isNameChar c = false ∧ isBlank c = false := by
  simp only [assignSigns, List.mem_cons, List.not_mem_nil, or_false] at h
  rcases h with rfl | rfl | rfl <;> exact ⟨_, _, rfl, by decide, by decide⟩

theorem trimLeft_gap_sign {gap sign : List Char} (hg : ∀ c ∈ gap, isBlank c = true)
    (hs : sign ∈ assignSigns) (rest : List Char) :
    trimLeft (gap ++ (sign ++ rest)) = sign ++ rest := by
  obtain ⟨c, s, rfl, -, hb⟩ := exists_cons_of_mem_assignSigns hs
  rw [trimLeft_append hg, List.cons_append, trimLeft_cons_of_not_isBlank _ hb]

/-- A line is read as an assignment exactly if a word is given a value. -/
theorem assignment?_eq_some_iff {name value : String} {line : Line} :
    assignment? line = some (name, value) ↔ IsWord name ∧ Gives name value line := by
  simp only [assignment?]
  constructor
  · intro h
    split at h
    · contradiction
    · next hn =>
      obtain ⟨rest, ha, he⟩ := Option.map_eq_some_iff.1 h
      obtain ⟨rfl, rfl⟩ := Prod.mk.inj he
      obtain ⟨sign, hs, ht⟩ := afterAssign?_eq_some_iff.1 ha
      obtain ⟨gap, hg, hl⟩ := exists_append_trimLeft (line.dropWhile isWordChar)
      refine ⟨⟨?_, ?_⟩, gap, sign, rest, ?_, hg, hs, rfl⟩
      · rw [String.toList_ofList]
        exact fun hm => hn (List.isEmpty_iff.2 hm)
      · rw [String.toList_ofList]
        exact forall_mem_takeWhile _ _
      · rw [String.toList_ofList, ← ht, ← hl, List.takeWhile_append_dropWhile]
  · rintro ⟨⟨hne, hw⟩, gap, sign, rest, rfl, hg, hs, rfl⟩
    have hh : (gap ++ (sign ++ rest)).head?.any isWordChar = false := by
      obtain ⟨c, s, rfl, hn, -⟩ := exists_cons_of_mem_assignSigns hs
      have h := head?_append_any_isNameChar hg hn (s ++ rest)
      cases gap with
      | nil => simp_all [isNameChar]
      | cons b gap => simp_all [isNameChar]
    rw [takeWhile_append_of_head? hw hh, dropWhile_append_of_head? hw hh,
      trimLeft_gap_sign hg hs, afterAssign?_eq_some_iff.2 ⟨sign, hs, rfl⟩]
    simp [hne]

/-- Looking for the assignment of one name finds every line that gives the name
a value. -/
theorem assigns_iff {name : String} {line : Line} :
    assigns name line = true ↔ ∃ value, Gives name value line := by
  unfold assigns
  constructor
  · intro h
    split at h
    · next behind hp =>
      obtain ⟨rest, ha⟩ := Option.isSome_iff_exists.1 h
      obtain ⟨sign, hs, ht⟩ := afterAssign?_eq_some_iff.1 ha
      obtain ⟨gap, hg, hb⟩ := exists_append_trimLeft behind
      refine ⟨_, gap, sign, rest, ?_, hg, hs, rfl⟩
      rw [isPrefixOf?_eq_some_iff.1 hp, ← ht, ← hb]
    · contradiction
  · rintro ⟨value, gap, sign, rest, rfl, hg, hs, rfl⟩
    rw [isPrefixOf?_eq_some_iff.2 rfl]
    simp only [trimLeft_gap_sign hg hs, afterAssign?_eq_some_iff.2 ⟨sign, hs, rfl⟩,
      Option.isSome_some]

/-! ## Headings -/

/-- The line opens with a name, blanks and a colon. -/
def IsHeading (name : List Char) (rest : List Char) (s : List Char) : Prop :=
  ∃ gap, s = name ++ (gap ++ ':' :: rest) ∧ ∀ c ∈ gap, isBlank c = true

theorem trimLeft_gap_colon {gap : List Char} (hg : ∀ c ∈ gap, isBlank c = true)
    (rest : List Char) : trimLeft (gap ++ ':' :: rest) = ':' :: rest := by
  rw [trimLeft_append hg, trimLeft_cons_of_not_isBlank _ (by decide)]

theorem isTargetName_iff {name : List Char} :
    Command.isTargetName name = true ↔
      name.head?.any isNameStart = true ∧ ∀ c ∈ name, isNameChar c = true := by
  cases name with
  | nil => simp [Command.isTargetName]
  | cons c s =>
      simp only [Command.isTargetName, Bool.and_eq_true, List.all_eq_true, List.head?_cons,
        Option.any_some, List.forall_mem_cons]
      constructor
      · rintro ⟨hc, hs⟩
        exact ⟨hc, isNameChar_of_isNameStart hc, hs⟩
      · rintro ⟨hc, -, hs⟩
        exact ⟨hc, hs⟩

/-- A target's name at the start of a line starts the line. -/
theorem IsHeading.head?_any_isNameStart {name rest s : List Char}
    (hn : Command.isTargetName name = true) (h : IsHeading name rest s) :
    s.head?.any isNameStart = true := by
  obtain ⟨gap, rfl, -⟩ := h
  obtain ⟨hs, -⟩ := isTargetName_iff.1 hn
  cases name with
  | nil => simp at hs
  | cons c name => simpa using hs

theorem heading?_eq_some_iff {s name rest : List Char} :
    heading? s = some (name, rest) ↔ Command.isTargetName name = true ∧ IsHeading name rest s := by
  constructor
  · intro h
    refine ⟨isTargetName_of_heading? h, ?_⟩
    unfold heading? at h
    split at h
    · next behind ht =>
      split at h
      · obtain ⟨rfl, rfl⟩ := Prod.mk.inj (Option.some.inj h)
        obtain ⟨gap, hg, hb⟩ := exists_append_trimLeft (s.dropWhile isNameChar)
        refine ⟨gap, ?_, hg⟩
        rw [← ht, ← hb, List.takeWhile_append_dropWhile]
      · contradiction
    · contradiction
  · rintro ⟨hn, h⟩
    have hs := h.head?_any_isNameStart hn
    obtain ⟨-, hw⟩ := isTargetName_iff.1 hn
    obtain ⟨gap, rfl, hg⟩ := h
    have hh := head?_append_any_isNameChar hg (c := ':') (by decide) rest
    simp only [heading?, takeWhile_append_of_head? hw hh, dropWhile_append_of_head? hw hh,
      trimLeft_gap_colon hg, hs, if_true]

/-- A line opens a recipe exactly if the name stands at its very start and a
colon behind it. -/
theorem opens_iff {name : String} {line : Line} :
    opens name line = true ↔ ∃ rest, IsHeading name.toList rest line := by
  unfold opens
  constructor
  · intro h
    split at h
    · next behind hp =>
      obtain ⟨gap, hg, hb⟩ := exists_append_trimLeft behind
      obtain ⟨rest, hr⟩ : ∃ rest, trimLeft behind = ':' :: rest := by
        cases ht : trimLeft behind with
        | nil => simp [ht] at h
        | cons c rest => exact ⟨rest, by simpa [ht] using h⟩
      exact ⟨rest, gap, by rw [isPrefixOf?_eq_some_iff.1 hp, ← hr, ← hb], hg⟩
    · contradiction
  · rintro ⟨rest, gap, rfl, hg⟩
    rw [isPrefixOf?_eq_some_iff.2 rfl]
    simp [trimLeft_gap_colon hg]

/-! ## Declarations -/

/-- The line declares a target of this name. -/
def Declares (name : String) (line : Line) : Prop :=
  ∃ dependencies, declaration? line = some (name, dependencies)

theorem any_declaration?_iff {name : String} {line : Line} :
    ((declaration? line).any fun d => d.1 == name) = true ↔ Declares name line := by
  unfold Declares
  cases declaration? line with
  | none => simp
  | some d => simp [Prod.ext_iff]

instance (name : String) (line : Line) : Decidable (Declares name line) :=
  decidable_of_iff _ any_declaration?_iff

/-- The line starts with a blank. -/
def isIndented (line : Line) : Bool := line.head?.any isBlank

theorem declaration?_eq_some_iff {name : String} {dependencies : List String} {line : Line} :
    declaration? line = some (name, dependencies) ↔
      '=' ∉ line ∧ Command.isTargetName name.toList = true ∧
        ∃ rest, IsHeading name.toList rest (trim line) ∧ dependencies = fields rest := by
  have he : (trim line).contains '=' = true ↔ '=' ∈ line := by
    rw [List.contains_iff_mem, mem_trim_iff_of_not_isBlank (by decide)]
  simp only [declaration?]
  constructor
  · intro h
    split at h
    · contradiction
    · next hc =>
      obtain ⟨⟨stem, rest⟩, hh, hp⟩ := Option.map_eq_some_iff.1 h
      obtain ⟨rfl, rfl⟩ := Prod.mk.inj hp
      obtain ⟨hn, ho⟩ := heading?_eq_some_iff.1 hh
      rw [String.toList_ofList]
      exact ⟨fun hm => hc (he.2 hm), hn, rest, ho, rfl⟩
  · rintro ⟨hm, hn, rest, ho, rfl⟩
    rw [if_neg fun hc => hm (he.1 hc), heading?_eq_some_iff.2 ⟨hn, ho⟩]
    simp

theorem Declares.isTargetName {name : String} {line : Line} (h : Declares name line) :
    Command.isTargetName name.toList = true := by
  obtain ⟨dependencies, hd⟩ := h
  exact isTargetName_of_declaration? hd

theorem trim_of_not_isIndented {line : Line} (h : isIndented line = false) :
    trim line = trimRight line := by
  rw [trim]
  cases line with
  | nil => rfl
  | cons c s => rw [trimLeft_cons_of_not_isBlank s (by simpa [isIndented] using h)]

theorem IsHeading.not_isIndented {name rest : List Char} {line : Line}
    (hn : Command.isTargetName name = true) (h : IsHeading name rest line) :
    isIndented line = false := by
  have hs := h.head?_any_isNameStart hn
  cases line with
  | nil => simp at hs
  | cons c s => simpa [isIndented] using isBlank_eq_false_of_isNameStart (by simpa using hs)

/-- A heading at the start of a line is one of the trimmed line. -/
theorem IsHeading.trim {name rest : List Char} {line : Line}
    (hn : Command.isTargetName name = true) (h : IsHeading name rest line) :
    IsHeading name (trimRight rest) (Text.trim line) := by
  have hi := h.not_isIndented hn
  obtain ⟨gap, hl, hg⟩ := h
  refine ⟨gap, ?_, hg⟩
  rw [trim_of_not_isIndented hi, hl, ← List.append_assoc,
    trimRight_append_cons_of_not_isBlank _ _ (by decide), List.append_assoc]

/-- A line that opens a target's recipe is not indented. -/
theorem not_isIndented_of_opens {name : String} {line : Line}
    (hn : Command.isTargetName name.toList = true) (h : opens name line = true) :
    isIndented line = false := by
  obtain ⟨rest, ho⟩ := opens_iff.1 h
  exact ho.not_isIndented hn

/-- At the start of a line, a name with a colon behind it is a declaration
exactly if the line has no equals sign. -/
theorem declares_iff_of_not_isIndented {name : String} {line : Line}
    (hn : Command.isTargetName name.toList = true) (hi : isIndented line = false) :
    Declares name line ↔ opens name line = true ∧ '=' ∉ line := by
  constructor
  · rintro ⟨dependencies, hd⟩
    obtain ⟨he, -, rest, ⟨gap, ht, hg⟩, -⟩ := declaration?_eq_some_iff.1 hd
    obtain ⟨behind, -, hl⟩ := exists_trimRight_append line
    refine ⟨opens_iff.2 ⟨rest ++ behind, gap, ?_, hg⟩, he⟩
    rw [hl, ← trim_of_not_isIndented hi, ht]
    simp
  · rintro ⟨ho, he⟩
    obtain ⟨rest, hh⟩ := opens_iff.1 ho
    exact ⟨_, declaration?_eq_some_iff.2 ⟨he, hn, _, hh.trim hn, rfl⟩⟩

end Line

end MakeTools
