import MakeTools.Proofs.Arguments
import MakeTools.Proofs.Words

/-!
# MakeTools.Proofs.Quoting

Words that go through raw arguments unchanged.

A word is quoted between single quotes, with each single quote of its own in
double quotes.  A reader of words that meets it comes out in the word as it was
before (`wordsFrom_quoteWord`), so that a list of quoted words with one space
between each two splits into exactly these words (`words_quoteWords`).  Quoting
adds quotes and spaces only (`mem_of_mem_quoteWords`), and neither is blocked.

So every list of safe words can be given as raw arguments; no other list can,
in whatever way it is written (`quoted_words_pass`).
-/

namespace MakeTools

namespace Shell

variable {w : List Char} {ws : List (List Char)} {c : Char}

/-! ## Reading what was quoted -/

/-- What stands for a character of a quoted word. -/
def quoteChar (c : Char) : List Char := if c = '\'' then "'\"'\"'".toList else [c]

theorem quoteWord_eq (w : List Char) :
    quoteWord w = '\'' :: (w.flatMap quoteChar ++ ['\'']) := rfl

/-- Between single quotes, what stands for a character adds this character. -/
theorem wordsFrom_quoteChar (c : Char) (soFar rest : List Char) :
    wordsFrom (.quote '\'' soFar) (quoteChar c ++ rest) =
      wordsFrom (.quote '\'' (soFar ++ [c])) rest := by
  by_cases hc : c = '\''
  · -- The quote is closed, opened between double quotes, and opened again.
    have hs : quoteChar c = ['\'', '"', '\'', '"', '\''] := by
      rw [quoteChar, if_pos hc]
      rfl
    rw [hs, hc]
    rfl
  · have hs : quoteChar c = [c] := by
      rw [quoteChar, if_neg hc]
    rw [hs, List.singleton_append, wordsFrom, if_neg hc]

/-- Up to the closing quote a quoted word adds the whole word. -/
theorem wordsFrom_flatMap_quoteChar (w soFar rest : List Char) :
    wordsFrom (.quote '\'' soFar) (w.flatMap quoteChar ++ '\'' :: rest) =
      wordsFrom (.word (soFar ++ w)) rest := by
  induction w generalizing soFar with
  | nil => rw [List.flatMap_nil, List.nil_append, List.append_nil, wordsFrom, if_pos rfl]
  | cons c w ih =>
      rw [List.flatMap_cons, List.append_assoc, wordsFrom_quoteChar, ih, List.append_assoc,
        List.singleton_append]

/-- A reader between words is behind a quoted word in this very word. -/
theorem wordsFrom_quoteWord (w rest : List Char) :
    wordsFrom .between (quoteWord w ++ rest) = wordsFrom (.word w) rest := by
  have hq : quoteWord w ++ rest = '\'' :: (w.flatMap quoteChar ++ '\'' :: rest) := by
    rw [quoteWord_eq, List.cons_append, List.append_assoc, List.singleton_append]
  have hopen : wordsFrom .between (quoteWord w ++ rest) =
      wordsFrom (.quote '\'' []) (w.flatMap quoteChar ++ '\'' :: rest) := by
    rw [hq]
    rfl
  rw [hopen, wordsFrom_flatMap_quoteChar, List.nil_append]

theorem quoteWords_cons_cons (w v : List Char) (ws : List (List Char)) :
    quoteWords (w :: v :: ws) = quoteWord w ++ ' ' :: quoteWords (v :: ws) := by
  simp [quoteWords, List.intercalate]

/-- Quoted words split into the words. -/
theorem wordsFrom_quoteWords (ws : List (List Char)) :
    wordsFrom .between (quoteWords ws) = some ws := by
  induction ws with
  | nil => rfl
  | cons w ws ih =>
      cases ws with
      | nil =>
          have hw : quoteWords [w] = quoteWord w ++ [] := by simp [quoteWords, List.intercalate]
          rw [hw, wordsFrom_quoteWord]
          rfl
      | cons v ws =>
          have hspace : wordsFrom (.word w) (' ' :: quoteWords (v :: ws)) =
              (wordsFrom .between (quoteWords (v :: ws))).map (w :: ·) := rfl
          rw [quoteWords_cons_cons, wordsFrom_quoteWord, hspace, ih, Option.map_some]

theorem words_quoteWords (ws : List String) :
    words (String.ofList (quoteWords (ws.map String.toList))) = some ws := by
  have hback : (ws.map String.toList).map String.ofList = ws := by
    rw [List.map_map]
    simp
  rw [words, String.toList_ofList, wordsFrom_quoteWords, Option.map_some, hback]

/-! ## Characters of quoted words -/

theorem mem_of_mem_quoteWord (h : c ∈ quoteWord w) : c ∈ w ∨ isQuote c = true := by
  rw [quoteWord_eq, List.mem_cons, List.mem_append, List.mem_flatMap, List.mem_singleton] at h
  have hquote : c = '\'' → isQuote c = true := by
    intro hc
    rw [hc]
    rfl
  cases h with
  | inl hc => exact .inr (hquote hc)
  | inr h =>
      cases h with
      | inr hc => exact .inr (hquote hc)
      | inl h =>
          obtain ⟨d, hd, hc⟩ := h
          by_cases hs : d = '\''
          · rw [quoteChar, if_pos hs] at hc
            have hall : ("'\"'\"'".toList.all isQuote) = true := by decide
            exact .inr (List.all_eq_true.1 hall c hc)
          · rw [quoteChar, if_neg hs, List.mem_singleton] at hc
            exact .inl (hc ▸ hd)

/-- Quoting words adds nothing but quotes and spaces. -/
theorem mem_of_mem_quoteWords (h : c ∈ quoteWords ws) :
    (∃ w ∈ ws, c ∈ w) ∨ isQuote c = true ∨ c = ' ' := by
  induction ws with
  | nil => exact absurd h List.not_mem_nil
  | cons w ws ih =>
      have hhead : c ∈ quoteWord w → (∃ v ∈ w :: ws, c ∈ v) ∨ isQuote c = true ∨ c = ' ' := by
        intro hc
        cases mem_of_mem_quoteWord hc with
        | inl hw => exact .inl ⟨w, List.mem_cons_self, hw⟩
        | inr hq => exact .inr (.inl hq)
      cases ws with
      | nil =>
          have hw : quoteWords [w] = quoteWord w := by simp [quoteWords, List.intercalate]
          exact hhead (hw ▸ h)
      | cons v ws =>
          rw [quoteWords_cons_cons, List.mem_append, List.mem_cons] at h
          cases h with
          | inl hc => exact hhead hc
          | inr h =>
              cases h with
              | inl hc => exact .inr (.inr hc)
              | inr hc =>
                  cases ih hc with
                  | inl hm =>
                      obtain ⟨u, hu, hc⟩ := hm
                      exact .inl ⟨u, List.mem_cons_of_mem _ hu, hc⟩
                  | inr hother => exact .inr hother

end Shell

namespace Command

variable {target : String} {makefile : Path} {settings : List (String × String)}
  {ws : List String}

/-! ## Raw arguments -/

/-- The words hold none of the characters that could break out of an argument. -/
def AreSafe (ws : List String) : Prop := ∀ w ∈ ws, ∀ c ∈ w.toList, c ∉ blockedChars

instance (ws : List String) : Decidable (AreSafe ws) :=
  decidable_of_iff ((ws.all fun w => w.toList.all fun c => !isBlocked c) = true) (by
    simp [AreSafe, isBlocked_eq_false_iff])

/-- Raw arguments of quoted words are as safe as the words. -/
theorem isBlocked_eq_false_of_mem_quoteWords (h : AreSafe ws) :
    ∀ c ∈ Shell.quoteWords (ws.map String.toList), isBlocked c = false := by
  have hmarks : (['\'', '"', ' '].all fun c => !isBlocked c) = true := by decide
  intro c hc
  have hmark : c ∈ ['\'', '"', ' '] → isBlocked c = false := by
    intro hm
    have hb := List.all_eq_true.1 hmarks c hm
    rwa [Bool.not_eq_true'] at hb
  cases Shell.mem_of_mem_quoteWords hc with
  | inl hm =>
      obtain ⟨w, hw, hcw⟩ := hm
      obtain ⟨word, hword, rfl⟩ := List.mem_map.1 hw
      exact isBlocked_eq_false_iff.2 (h word hword c hcw)
  | inr h =>
      cases h with
      | inl hq =>
          rw [Shell.isQuote, Bool.or_eq_true, beq_iff_eq, beq_iff_eq] at hq
          exact hmark (by simpa using hq.imp id .inl)
      | inr hs => exact hmark (by simp [hs])

/-- The words of raw arguments that pass are safe. -/
theorem areSafe_of_build {rawArgs : String}
    (h : build target makefile settings rawArgs =
      .ok (["make", "-f", toString makefile, target] ++ settings.map assignmentWord ++ ws)) :
    AreSafe ws := by
  obtain ⟨-, -, hraw, words, hwords, hc⟩ := build_eq_ok_iff_anchored.1 h
  obtain rfl : ws = words := List.append_cancel_left hc
  intro w hw c hc
  exact isBlocked_eq_false_iff.1 (hraw c (Shell.mem_of_mem_words hwords hw hc))

/-- **Safe words pass**: with a target and settings that pass their checks, a
list of safe words goes unchanged through raw arguments that quote each of them
and put one space between each two.  A list with a word that is not safe goes
through no raw arguments at all. -/
theorem quoted_words_pass (ht : checkTarget target = .ok ())
    (hs : checkVariables settings = .ok ()) (makefile : Path) (ws : List String) :
    let command := ["make", "-f", toString makefile, target] ++ settings.map assignmentWord ++ ws
    (AreSafe ws →
      build target makefile settings (String.ofList (Shell.quoteWords (ws.map String.toList))) =
        .ok command) ∧
    ∀ rawArgs, build target makefile settings rawArgs = .ok command → AreSafe ws := by
  intro command
  constructor
  · intro hsafe
    have hraw : checkRawArgs (String.ofList (Shell.quoteWords (ws.map String.toList))) =
        .ok () := by
      rw [checkRawArgs_eq_ok_iff, String.toList_ofList]
      exact isBlocked_eq_false_of_mem_quoteWords hsafe
    have hwords : rawWords (String.ofList (Shell.quoteWords (ws.map String.toList))) = .ok ws :=
      rawWords_eq_ok_iff.2 (Shell.words_quoteWords ws)
    exact build_eq_ok_iff.2 ⟨ht, hs, hraw, ws, hwords, rfl⟩
  · intro rawArgs h
    exact areSafe_of_build h

/-- Quotes of both kinds, blanks and line feeds go through, and so does a word
that is empty; a bracket does not. -/
theorem quoted_words_pass_of_quotes :
    checkTarget "run" = .ok () ∧ checkVariables [("A", "'")] = .ok () ∧
    Shell.quoteWords (["", "it's", "\"a\n b\"", "\u00e9"].map String.toList) =
      "'' 'it'\"'\"'s' '\"a\n b\"' '\u00e9'".toList ∧
    build "run" ⟨.relative, ["Makefile"]⟩ [("A", "'")]
        "'' 'it'\"'\"'s' '\"a\n b\"' '\u00e9'" =
      .ok ["make", "-f", "Makefile", "run", "A='", "", "it's", "\"a\n b\"", "\u00e9"] ∧
    ∀ rawArgs, build "run" ⟨.relative, ["Makefile"]⟩ [("A", "'")] rawArgs ≠
      .ok ["make", "-f", "Makefile", "run", "A='", "(x"] := by
  have ht : checkTarget "run" = .ok () := by decide
  have hs : checkVariables [("A", "'")] = .ok () := by decide
  have hq : Shell.quoteWords (["", "it's", "\"a\n b\"", "\u00e9"].map String.toList) =
      "'' 'it'\"'\"'s' '\"a\n b\"' '\u00e9'".toList := by decide
  have hsafe : AreSafe ["", "it's", "\"a\n b\"", "\u00e9"] := by decide
  have hbuild := (quoted_words_pass ht hs ⟨.relative, ["Makefile"]⟩ _).1 hsafe
  rw [hq, String.ofList_toList] at hbuild
  refine ⟨ht, hs, hq, hbuild, fun rawArgs h => ?_⟩
  have hbad : AreSafe ["(x"] := (quoted_words_pass ht hs ⟨.relative, ["Makefile"]⟩ _).2 rawArgs h
  exact absurd hbad (by decide)

end Command
end MakeTools
