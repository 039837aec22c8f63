import MakeTools.Proofs.Acceptance
import MakeTools.Proofs.Lexing

/-!
# MakeTools.Proofs.Arguments

The words of a command.

Behind the Makefile a command has its target, one word per setting, and the
words of the raw arguments.  A name that passes the check holds no equals sign,
so that each word of a setting reads back as the setting that it was written
for (`readAssignment?_assignmentWord`), and it begins with a letter or an
underscore, so that no such word can be taken for an option.  The check allows
one line feed behind a name; the line feed becomes part of the word and does no
harm to either.

Of the blocked characters none gets into these words: a setting is checked part
by part, and the words of the raw arguments are made of characters of a text
that was checked as a whole.
-/

namespace MakeTools

open Text Line

namespace Command

/-! ## Checked names -/

/-- A text matches an anchored pattern exactly if it matches the pattern as it
stands, or without a line feed at its end. -/
theorem anchored_eq_true_iff {p : List Char → Bool} {s : List Char} :
    anchored p s = true ↔ p s = true ∨ ∃ t, s = t ++ ['\n'] ∧ p t = true := by
  simp only [anchored, Bool.or_eq_true, Bool.and_eq_true, beq_iff_eq]
  constructor
  · rintro (h | ⟨hl, h⟩)
    · exact .inl h
    · obtain ⟨t, rfl⟩ := List.getLast?_eq_some_iff.1 hl
      rw [List.dropLast_concat] at h
      exact .inr ⟨t, rfl, h⟩
  · rintro (h | ⟨t, rfl, h⟩)
    · exact .inl h
    · exact .inr ⟨by simp, by simpa using h⟩

/-- Every name of a variable could be a target's. -/
theorem isTargetName_of_isVariableName {s : List Char} (h : isVariableName s = true) :
    isTargetName s = true := by
  cases s with
  | nil => contradiction
  | cons c s =>
      simp only [isVariableName, isTargetName, Bool.and_eq_true, List.all_eq_true] at h ⊢
      exact ⟨h.1, fun d hd => isNameChar_of_isWordChar (h.2 d hd)⟩

theorem anchored_isTargetName_of_anchored_isVariableName {s : List Char}
    (h : anchored isVariableName s = true) : anchored isTargetName s = true := by
  rw [anchored_eq_true_iff] at h ⊢
  rcases h with h | ⟨t, rfl, h⟩
  · exact .inl (isTargetName_of_isVariableName h)
  · exact .inr ⟨t, rfl, isTargetName_of_isVariableName h⟩

/-- A checked name begins as a name does. -/
theorem head?_any_isNameStart_of_anchored {s : List Char} (h : anchored isTargetName s = true) :
    s.head?.any isNameStart = true := by
  rcases anchored_eq_true_iff.1 h with hs | ⟨t, rfl, ht⟩
  · exact (isTargetName_iff.1 hs).1
  · cases t with
    | nil => contradiction
    | cons c t => exact (isTargetName_iff.1 ht).1

/-- A checked name is made of characters of names, and at most a line feed. -/
theorem isNameChar_or_eq_of_anchored {s : List Char} (h : anchored isTargetName s = true) :
    ∀ c ∈ s, isNameChar c = true ∨ c = '\n' := by
  rcases anchored_eq_true_iff.1 h with hs | ⟨t, rfl, ht⟩
  · exact fun c hc => .inl ((isTargetName_iff.1 hs).2 c hc)
  · intro c hc
    rcases List.mem_append.1 hc with hc | hc
    · exact .inl ((isTargetName_iff.1 ht).2 c hc)
    · exact .inr (List.mem_singleton.1 hc)

theorem not_mem_of_anchored {s : List Char} (h : anchored isTargetName s = true) : '=' ∉ s := by
  intro hm
  rcases isNameChar_or_eq_of_anchored h _ hm with hc | hc
  · exact absurd hc (by decide)
  · exact absurd hc (by decide)

theorem isBlocked_eq_false_iff {c : Char} : isBlocked c = false ↔ c ∉ blockedChars := by
  rw [isBlocked, ← Bool.not_eq_true, List.contains_iff_mem]

/-- No character of a name is blocked. -/
theorem isBlocked_eq_false_of_isNameChar {c : Char} (h : isNameChar c = true) :
    isBlocked c = false := by
  have hblocked : blockedChars.all (fun d => !isNameChar d) = true := by decide
  rw [isBlocked_eq_false_iff]
  intro hm
  have hc := List.all_eq_true.1 hblocked c hm
  rw [h] at hc
  contradiction

theorem isBlocked_eq_false_of_anchored {s : List Char} (h : anchored isTargetName s = true) :
    ∀ c ∈ s, isBlocked c = false := by
  intro c hc
  rcases isNameChar_or_eq_of_anchored h c hc with hn | rfl
  · exact isBlocked_eq_false_of_isNameChar hn
  · decide

/-! ## Words of settings -/

/-- Read a word as a setting: the name stands in front of the first equals
sign, the value behind it. -/
def readAssignment? (word : String) : Option (String × String) :=
  match word.toList.dropWhile (· != '=') with
  | [] => none
  | _ :: value => some (String.ofList (word.toList.takeWhile (· != '=')), String.ofList value)

theorem toList_assignmentWord (v : String × String) :
    (assignmentWord v).toList = v.1.toList ++ '=' :: v.2.toList := by
  simp [assignmentWord]

/-- The word of a setting reads back as the setting, if there is no equals sign
in the name.  There may be any number in the value. -/
theorem readAssignment?_assignmentWord {v : String × String} (h : '=' ∉ v.1.toList) :
    readAssignment? (assignmentWord v) = some v := by
  have hname : ∀ c ∈ v.1.toList, (c != '=') = true := by
    intro c hc
    rw [bne_iff_ne]
    rintro rfl
    exact h hc
  have hvalue : ('=' :: v.2.toList).head?.any (· != '=') = false := rfl
  rw [readAssignment?, toList_assignmentWord, dropWhile_append_of_head? hname hvalue,
    takeWhile_append_of_head? hname hvalue]
  simp only [String.ofList_toList]

/-- Settings whose words all read back can be told from their words. -/
theorem eq_of_map_assignmentWord_eq {settings other : List (String × String)}
    (h : ∀ v ∈ settings, readAssignment? (assignmentWord v) = some v)
    (h' : ∀ v ∈ other, readAssignment? (assignmentWord v) = some v)
    (heq : settings.map assignmentWord = other.map assignmentWord) : settings = other := by
  have hread : ∀ {vs : List (String × String)},
      (∀ v ∈ vs, readAssignment? (assignmentWord v) = some v) →
      (vs.map assignmentWord).map readAssignment? = vs.map some := by
    intro vs hvs
    rw [List.map_map]
    exact List.map_congr_left hvs
  have hsome : settings.map some = other.map some := by
    calc
      settings.map some = (settings.map assignmentWord).map readAssignment? := (hread h).symm
      _ = (other.map assignmentWord).map readAssignment? := by rw [heq]
      _ = other.map some := hread h'
  exact (List.map_inj_right fun _ _ => Option.some.inj).1 hsome

/-! ## Words of a command -/

theorem checkTarget_eq_ok_iff {name : String} :
    checkTarget name = .ok () ↔ anchored isTargetName name.toList = true := by
  unfold checkTarget
  cases anchored isTargetName name.toList <;> simp

/-- A command comes of a checked name of a target, of settings with checked
names and safe values, and of raw arguments that are safe and split into
words, and then it has this shape. -/
theorem build_eq_ok_iff_anchored {target : String} {makefile : Path}
    {settings : List (String × String)} {rawArgs : String} {command : List String} :
    build target makefile settings rawArgs = .ok command ↔
      anchored isTargetName target.toList = true ∧
      (∀ v ∈ settings, anchored isVariableName v.1.toList = true ∧
        ∀ c ∈ v.2.toList, isBlocked c = false) ∧
      (∀ c ∈ rawArgs.toList, isBlocked c = false) ∧
      ∃ words, Shell.words rawArgs = some words ∧
        command = ["make", "-f", toString makefile, target] ++ settings.map assignmentWord
          ++ words := by
  rw [build_eq_ok_iff, checkVariables_eq_ok_iff, checkRawArgs_eq_ok_iff, checkTarget_eq_ok_iff]
  simp only [checkVariable_eq_ok_iff, rawWords_eq_ok_iff]

/-- What begins as a name is no option. -/
theorem head?_ne_of_any_isNameStart {s : List Char} (h : s.head?.any isNameStart = true) :
    s.head? ≠ some '-' := by
  intro hs
  rw [hs] at h
  exact absurd h (by decide)

/-- The target and the word of a setting begin as names do. -/
theorem head?_any_isNameStart_of_build {target : String} {makefile : Path}
    {settings : List (String × String)} {rawArgs : String} {command : List String}
    (h : build target makefile settings rawArgs = .ok command) :
    ∀ word ∈ target :: settings.map assignmentWord,
      word.toList.head?.any isNameStart = true := by
  obtain ⟨htarget, hsettings, -, -⟩ := build_eq_ok_iff_anchored.1 h
  intro word hword
  rcases List.mem_cons.1 hword with rfl | hword
  · exact head?_any_isNameStart_of_anchored htarget
  · obtain ⟨v, hv, rfl⟩ := List.mem_map.1 hword
    have hname := head?_any_isNameStart_of_anchored
      (anchored_isTargetName_of_anchored_isVariableName (hsettings v hv).1)
    rw [toList_assignmentWord]
    -- The word begins with the first character of the name, which is not empty.
    cases hn : v.1.toList with
    | nil => rw [hn] at hname; contradiction
    | cons c s => rw [hn] at hname; exact hname

/-- No blocked character is in the target, in the word of a setting, or in a
word of the raw arguments. -/
theorem isBlocked_eq_false_of_build {target : String} {makefile : Path}
    {settings : List (String × String)} {rawArgs : String} {command : List String}
    (h : build target makefile settings rawArgs = .ok command) :
    ∀ word ∈ command.drop 3, ∀ c ∈ word.toList, isBlocked c = false := by
  obtain ⟨htarget, hsettings, hraw, words, hwords, rfl⟩ := build_eq_ok_iff_anchored.1 h
  intro word hword c hc
  have hmem : word ∈ target :: (settings.map assignmentWord ++ words) := by simpa using hword
  rcases List.mem_cons.1 hmem with rfl | hmem
  · exact isBlocked_eq_false_of_anchored htarget c hc
  · rcases List.mem_append.1 hmem with hmem | hmem
    · obtain ⟨v, hv, rfl⟩ := List.mem_map.1 hmem
      obtain ⟨hname, hvalue⟩ := hsettings v hv
      rw [toList_assignmentWord] at hc
      rcases List.mem_append.1 hc with hc | hc
      · exact isBlocked_eq_false_of_anchored
          (anchored_isTargetName_of_anchored_isVariableName hname) c hc
      · rcases List.mem_cons.1 hc with rfl | hc
        · decide
        · exact hvalue c hc
    · exact hraw c (Shell.mem_of_mem_words hwords hmem hc)

/-- The word of each setting of a command reads back as the setting. -/
theorem readAssignment?_of_build {target : String} {makefile : Path}
    {settings : List (String × String)} {rawArgs : String} {command : List String}
    (h : build target makefile settings rawArgs = .ok command) :
    ∀ v ∈ settings, readAssignment? (assignmentWord v) = some v := by
  obtain ⟨-, hsettings, -, -⟩ := build_eq_ok_iff_anchored.1 h
  intro v hv
  exact readAssignment?_assignmentWord
    (not_mem_of_anchored (anchored_isTargetName_of_anchored_isVariableName (hsettings v hv).1))

/-- Without raw arguments a command is built of one list of settings only. -/
theorem eq_of_build_eq_build {target : String} {makefile : Path}
    {settings other : List (String × String)} {command : List String}
    (h : build target makefile settings "" = .ok command)
    (h' : build target makefile other "" = .ok command) : settings = other := by
  obtain ⟨-, -, -, words, hwords, hc⟩ := build_eq_ok_iff_anchored.1 h
  obtain ⟨-, -, -, words', hwords', hc'⟩ := build_eq_ok_iff_anchored.1 h'
  obtain rfl : words = words' := Option.some.inj (hwords.symm.trans hwords')
  have hmap : settings.map assignmentWord = other.map assignmentWord := by
    rw [hc] at hc'
    exact List.append_cancel_left (List.append_cancel_right hc')
  exact eq_of_map_assignmentWord_eq (readAssignment?_of_build h) (readAssignment?_of_build h') hmap

/-- **Words of a command**: a command that is built runs `make` on the Makefile
for the target, with one word per setting in order and then the words of the
raw arguments.  Each word of a setting reads back as the setting, neither the
target nor such a word begins with a hyphen, and no blocked character is in any
word behind the Makefile.  Without raw arguments the settings are determined by
the command. -/
theorem shape_of_build (target : String) (makefile : Path) :
    (∀ settings rawArgs command, build target makefile settings rawArgs = .ok command →
      (∃ words, Shell.words rawArgs = some words ∧
        command = ["make", "-f", toString makefile, target] ++ settings.map assignmentWord
          ++ words) ∧
      (∀ v ∈ settings, readAssignment? (assignmentWord v) = some v) ∧
      (∀ word ∈ target :: settings.map assignmentWord, word.toList.head? ≠ some '-') ∧
      ∀ word ∈ command.drop 3, ∀ c ∈ word.toList, c ∉ blockedChars) ∧
    ∀ settings other command, build target makefile settings "" = .ok command →
      build target makefile other "" = .ok command → settings = other := by
  refine ⟨fun settings rawArgs command h => ?_, fun _ _ _ => eq_of_build_eq_build⟩
  obtain ⟨-, -, -, words, hwords, hcommand⟩ := build_eq_ok_iff_anchored.1 h
  refine ⟨⟨words, hwords, hcommand⟩, readAssignment?_of_build h, ?_, ?_⟩
  · intro word hword
    exact head?_ne_of_any_isNameStart (head?_any_isNameStart_of_build h word hword)
  · intro word hword c hc hb
    have hsafe := isBlocked_eq_false_of_build h word hword c hc
    rw [isBlocked, List.contains_iff_mem.2 hb] at hsafe
    contradiction

/-- Equals signs and a hyphen in a value, a line feed behind a name, and raw
arguments that are put together from quoted and unquoted pieces. -/
theorem shape_of_build_of_equals_in_value :
    build "run\n" ⟨.relative, ["Makefile"]⟩ [("E", "a=b"), ("_X", "-k = 1")] "-j'4 '\"'k'\"" =
      .ok ["make", "-f", "Makefile", "run\n", "E=a=b", "_X=-k = 1", "-j4 'k'"] ∧
    readAssignment? "E=a=b" = some ("E", "a=b") ∧
    (∀ word ∈ ["run\n", "E=a=b", "_X=-k = 1"], word.toList.head? ≠ some '-') ∧
    (∀ word ∈ ["run\n", "E=a=b", "_X=-k = 1", "-j4 'k'"], ∀ c ∈ word.toList, c ∉ blockedChars) ∧
    ∀ other, build "run\n" ⟨.relative, ["Makefile"]⟩ other "" =
      .ok ["make", "-f", "Makefile", "run\n", "E=a=b"] → other = [("E", "a=b")] := by
  have hbuild : build "run\n" ⟨.relative, ["Makefile"]⟩ [("E", "a=b"), ("_X", "-k = 1")]
      "-j'4 '\"'k'\"" =
        .ok ["make", "-f", "Makefile", "run\n", "E=a=b", "_X=-k = 1", "-j4 'k'"] := by decide
  have hplain : build "run\n" ⟨.relative, ["Makefile"]⟩ [("E", "a=b")] "" =
      .ok ["make", "-f", "Makefile", "run\n", "E=a=b"] := by decide
  obtain ⟨-, hread, hhead, hsafe⟩ := (shape_of_build _ _).1 _ _ _ hbuild
  exact ⟨hbuild, hread _ List.mem_cons_self, hhead, hsafe,
    fun other h => (shape_of_build _ _).2 _ _ _ h hplain⟩

end Command
end MakeTools
