import MakeTools.Proofs.Arguments
import MakeTools.Proofs.Handover

/-!
# MakeTools.Proofs.Identifiers

Which names pass the checks.

An identifier is a letter or an underscore and then letters, digits and
underscores, all of them ASCII; the name of a target may hold hyphens behind its
first character.  The check of a name accepts every identifier.  What it accepts
beyond them is an identifier with one line feed behind it
(`anchored_iff_isIdentifierLine`), since the end anchor of its pattern holds in
front of a final line feed too.

A target that is run is declared, and so its name is an identifier.  The name
of a variable comes from the caller: the line feed behind it becomes part of a
word of the command (`accepted_names_iff`).
-/

namespace MakeTools

open Line Command Server

/-! ## Identifiers -/

namespace Line

/-- An ASCII letter. -/
def IsLetter (c : Char) : Prop := 'A' ≤ c ∧ c ≤ 'Z' ∨ 'a' ≤ c ∧ c ≤ 'z'

/-- An ASCII digit. -/
def IsDigit (c : Char) : Prop := '0' ≤ c ∧ c ≤ '9'

instance (c : Char) : Decidable (IsLetter c) := inferInstanceAs (Decidable (_ ∨ _))

instance (c : Char) : Decidable (IsDigit c) := inferInstanceAs (Decidable (_ ∧ _))

/-- An identifier: a letter or an underscore, and then letters, digits,
underscores, and whatever else is listed. -/
def IsIdentifier (further s : List Char) : Prop :=
  ∃ c rest, s = c :: rest ∧ (IsLetter c ∨ c = '_') ∧
    ∀ d ∈ rest, IsLetter d ∨ IsDigit d ∨ d = '_' ∨ d ∈ further

/-- An identifier, as it stands or with one line feed behind it. -/
def IsIdentifierLine (further s : List Char) : Prop :=
  ∃ t, IsIdentifier further t ∧ (s = t ∨ s = t ++ ['\n'])

variable {c : Char} {further s : List Char}

theorem isAlpha_iff : c.isAlpha = true ↔ IsLetter c := by
  have h : c.isAlpha = (decide (65 ≤ c.val ∧ c.val ≤ 90) ||
      (decide (97 ≤ c.val) && decide (c.val ≤ 122))) := rfl
  simp only [h, Bool.or_eq_true, Bool.and_eq_true, decide_eq_true_eq]
  rfl

theorem isDigit_iff : c.isDigit = true ↔ IsDigit c := by
  have h : c.isDigit = (decide (48 ≤ c.val) && decide (c.val ≤ 57)) := rfl
  simp only [h, Bool.and_eq_true, decide_eq_true_eq]
  rfl

theorem isNameStart_iff : isNameStart c = true ↔ IsLetter c ∨ c = '_' := by
  simp only [isNameStart, Bool.or_eq_true, isAlpha_iff, beq_iff_eq]

theorem isWordChar_iff : isWordChar c = true ↔ IsLetter c ∨ IsDigit c ∨ c = '_' := by
  simp only [isWordChar, Char.isAlphanum, Bool.or_eq_true, isAlpha_iff, isDigit_iff, beq_iff_eq,
    or_assoc]

theorem isNameChar_iff : isNameChar c = true ↔ IsLetter c ∨ IsDigit c ∨ c = '_' ∨ c = '-' := by
  simp only [isNameChar, Bool.or_eq_true, isWordChar_iff, beq_iff_eq, or_assoc]

theorem isIdentifier_cons_iff :
    IsIdentifier further (c :: s) ↔ (IsLetter c ∨ c = '_') ∧
      ∀ d ∈ s, IsLetter d ∨ IsDigit d ∨ d = '_' ∨ d ∈ further := by
  constructor
  · intro h
    obtain ⟨first, rest, he, hfirst, hrest⟩ := h
    obtain ⟨rfl, rfl⟩ := List.cons.inj he
    exact ⟨hfirst, hrest⟩
  · intro h
    exact ⟨c, s, rfl, h⟩

/-- No identifier ends in a line feed, unless line feeds are listed. -/
theorem IsIdentifier.getLast?_ne (h : IsIdentifier further s) (hf : '\n' ∉ further) :
    s.getLast? ≠ some '\n' := by
  have hletter : ¬ IsLetter '\n' := by decide
  have hdigit : ¬ IsDigit '\n' := by decide
  obtain ⟨c, rest, rfl, hc, hrest⟩ := h
  intro hl
  cases List.mem_cons.1 (List.mem_of_getLast? hl) with
  | inl hm =>
      subst hm
      exact hc.elim hletter (by decide)
  | inr hm =>
      cases hrest _ hm with
      | inl h => exact hletter h
      | inr h => exact h.elim hdigit fun h => h.elim (by decide) hf

/-- Without a line feed at its end the line of an identifier is the
identifier. -/
theorem isIdentifierLine_iff_of_getLast?_ne (h : s.getLast? ≠ some '\n') :
    IsIdentifierLine further s ↔ IsIdentifier further s := by
  constructor
  · intro hs
    obtain ⟨t, ht, rfl | rfl⟩ := hs
    · exact ht
    · exact absurd (by simp) h
  · intro hs
    exact ⟨s, hs, .inl rfl⟩

end Line

/-! ## Checks of names -/

namespace Command

variable {further s : List Char}

theorem isTargetName_iff_isIdentifier : isTargetName s = true ↔ IsIdentifier ['-'] s := by
  cases s with
  | nil => simp [isTargetName, IsIdentifier]
  | cons c s =>
      simp only [isTargetName, Bool.and_eq_true, List.all_eq_true, isNameStart_iff,
        isNameChar_iff, isIdentifier_cons_iff, List.mem_singleton]

theorem isVariableName_iff_isIdentifier : isVariableName s = true ↔ IsIdentifier [] s := by
  cases s with
  | nil => simp [isVariableName, IsIdentifier]
  | cons c s =>
      simp only [isVariableName, Bool.and_eq_true, List.all_eq_true, isNameStart_iff,
        isWordChar_iff, isIdentifier_cons_iff, List.not_mem_nil, or_false]

/-- An anchored pattern for identifiers lets one line feed through behind
them. -/
theorem anchored_iff_isIdentifierLine {p : List Char → Bool}
    (hp : ∀ t, p t = true ↔ IsIdentifier further t) :
    anchored p s = true ↔ IsIdentifierLine further s := by
  rw [anchored_eq_true_iff, hp]
  constructor
  · intro h
    cases h with
    | inl h => exact ⟨s, h, .inl rfl⟩
    | inr h =>
        obtain ⟨t, rfl, ht⟩ := h
        exact ⟨t, (hp t).1 ht, .inr rfl⟩
  · intro h
    obtain ⟨t, ht, rfl | rfl⟩ := h
    · exact .inl ht
    · exact .inr ⟨t, rfl, (hp t).2 ht⟩

theorem checkTarget_eq_ok_iff_isIdentifierLine {name : String} :
    checkTarget name = .ok () ↔ IsIdentifierLine ['-'] name.toList := by
  rw [checkTarget_eq_ok_iff, anchored_iff_isIdentifierLine fun _ => isTargetName_iff_isIdentifier]

/-- Settings pass exactly if each of them has a name that is an identifier, up
to a line feed behind it, and a safe value. -/
theorem checkVariables_eq_ok_iff_isIdentifierLine {settings : List (String × String)} :
    checkVariables settings = .ok () ↔
      ∀ v ∈ settings, IsIdentifierLine [] v.1.toList ∧ isDangerous v.2 = false := by
  rw [checkVariables_eq_ok_iff]
  simp only [checkVariable_eq_ok_iff, ← isDangerous_eq_false_iff,
    anchored_iff_isIdentifierLine fun _ => isVariableName_iff_isIdentifier]

end Command

/-! ## Names in commands -/

namespace Session

/-- **Accepted names**: the check of a target accepts exactly the identifiers,
hyphens included, and those with one line feed behind them; the check of
settings does so for the names of variables.  In a command that is handed over,
the target is an identifier, each word of a setting has such a name in front of
its first equals sign, and that name is an identifier exactly if it does not end
in a line feed. -/
theorem accepted_names_iff (s : Session) (steps : List Step) :
    (∀ name, checkTarget name = .ok () ↔ IsIdentifierLine ['-'] name.toList) ∧
    (∀ settings, checkVariables settings = .ok () ↔
      ∀ v ∈ settings, IsIdentifierLine [] v.1.toList ∧ isDangerous v.2 = false) ∧
    (∀ name : String, name.toList.getLast? ≠ some '\n' →
      (checkTarget name = .ok () ↔ IsIdentifier ['-'] name.toList) ∧
      ∀ value, isDangerous value = false →
        (checkVariables [(name, value)] = .ok () ↔ IsIdentifier [] name.toList)) ∧
    ∀ t ∈ s.transitions steps, ∀ command ∈ t.handed, ∃ tool arguments target words,
      t.step.call? = some (tool, arguments) ∧
      Shell.words (collect arguments).2 = some words ∧
      command = ["make", "-f", toString s.server.config.makefile, target] ++
        (collect arguments).1.map assignmentWord ++ words ∧
      IsIdentifier ['-'] target.toList ∧
      ∀ v ∈ (collect arguments).1, readAssignment? (assignmentWord v) = some v ∧
        IsIdentifierLine [] v.1.toList ∧
        (IsIdentifier [] v.1.toList ↔ v.1.toList.getLast? ≠ some '\n') := by
  refine ⟨fun name => checkTarget_eq_ok_iff_isIdentifierLine,
    fun settings => checkVariables_eq_ok_iff_isIdentifierLine, fun name hname => ⟨?_, ?_⟩, ?_⟩
  · rw [checkTarget_eq_ok_iff_isIdentifierLine, isIdentifierLine_iff_of_getLast?_ne hname]
  · intro value hvalue
    rw [checkVariables_eq_ok_iff_isIdentifierLine, List.forall_mem_singleton,
      isIdentifierLine_iff_of_getLast?_ne hname]
    exact and_iff_left hvalue
  · intro t ht command hm
    obtain ⟨tool, arguments, target, hcall, -, hd, -, hb⟩ :=
      Transition.exists_call_of_mem_handed hm
    rw [config_of_mem_transitions ht] at hb
    obtain ⟨-, hsettings, -, words, hw, hc⟩ := build_eq_ok_iff.1 hb
    refine ⟨tool, arguments, target, words, hcall, rawWords_eq_ok_iff.1 hw, hc,
      isTargetName_iff_isIdentifier.1 hd.isTargetName, fun v hv => ?_⟩
    have hline := (checkVariables_eq_ok_iff_isIdentifierLine.1 hsettings v hv).1
    refine ⟨readAssignment?_of_build hb v hv, hline, fun h => h.getLast?_ne List.not_mem_nil, ?_⟩
    intro hl
    exact (isIdentifierLine_iff_of_getLast?_ne hl).1 hline

/-- A line feed behind the name of a variable comes through into the command; a
letter that is not ASCII does not pass. -/
theorem accepted_names_of_line_feed :
    checkVariables [("\u00e9t\u00e9", "")] ≠ .ok () ∧
    ∃ t ∈ (Session.beside "run-all:\n" []).transitions
        [.call "make_run-all" [("X_1\n", .text "a=b"), ("args", .text "9=x")]],
      ["make", "-f", "Makefile", "run-all", "X_1\n=a=b", "9=x"] ∈ t.handed ∧
      readAssignment? "X_1\n=a=b" = some ("X_1\n", "a=b") ∧
      IsIdentifierLine [] "X_1\n".toList ∧ ¬ IsIdentifier [] "X_1\n".toList := by
  obtain ⟨t, ht, hc, hstep⟩ : ∃ t ∈ (Session.beside "run-all:\n" []).transitions
      [.call "make_run-all" [("X_1\n", .text "a=b"), ("args", .text "9=x")]],
      ["make", "-f", "Makefile", "run-all", "X_1\n=a=b", "9=x"] ∈ t.handed ∧
      t.step.call? = some ("make_run-all", [("X_1\n", .text "a=b"), ("args", .text "9=x")]) :=
    ⟨_, List.mem_cons_self, by decide +kernel, rfl⟩
  obtain ⟨-, -, hascii, hnames⟩ := accepted_names_iff (.beside "run-all:\n" [])
    [.call "make_run-all" [("X_1\n", .text "a=b"), ("args", .text "9=x")]]
  obtain ⟨tool, arguments, target, words, hcall, -, -, -, hsettings⟩ := hnames t ht _ hc
  obtain ⟨-, rfl⟩ := Prod.mk.inj (Option.some.inj (hcall.symm.trans hstep))
  obtain ⟨hread, hline, hiff⟩ := hsettings ("X_1\n", "a=b") (by decide)
  refine ⟨fun h => ?_, t, ht, hc, hread, hline, fun h => hiff.1 h (by decide)⟩
  have hid := ((hascii "\u00e9t\u00e9" (by decide)).2 "" (by decide)).1 h
  rw [← isVariableName_iff_isIdentifier] at hid
  exact absurd hid (by decide)

/-- The checks accept more than identifiers, and so a word of a command may set
a variable whose name is none. -/
theorem exists_name_accepted_beyond_identifiers :
    (¬ ∀ name, checkTarget name = .ok () ↔ IsIdentifier ['-'] name.toList) ∧
    (¬ ∀ name, checkVariables [(name, "")] = .ok () ↔ IsIdentifier [] name.toList) ∧
    ¬ ∀ (s : Session) (steps : List Step), ∀ t ∈ s.transitions steps, ∀ command ∈ t.handed,
      ∀ tool arguments, t.step.call? = some (tool, arguments) → (collect arguments).2 = "" →
      ∀ word ∈ command.drop 4, ∀ v, readAssignment? word = some v →
        IsIdentifier [] v.1.toList := by
  refine ⟨fun h => ?_, fun h => ?_, fun h => ?_⟩
  · exact absurd (isTargetName_iff_isIdentifier.2 ((h "run\n").1 (by decide))) (by decide)
  · exact absurd (isVariableName_iff_isIdentifier.2 ((h "X\n").1 (by decide))) (by decide)
  · have hid := h (.beside "run:\n" []) [.call "make_run" [("X\n", .text "1")]] ⟨_, _⟩
      List.mem_cons_self ["make", "-f", "Makefile", "run", "X\n=1"] (by decide +kernel)
      "make_run" [("X\n", .text "1")] rfl (by decide) "X\n=1" (by decide) ("X\n", "1") (by decide)
    exact absurd (isVariableName_iff_isIdentifier.2 hid) (by decide)

end Session

end MakeTools
