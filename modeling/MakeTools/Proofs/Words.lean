import MakeTools.Shell.Words

/-!
# MakeTools.Proofs.Words

When a text can be split into words.

Whether a text ends between quotes can be told without splitting it: a fold
over the characters keeps the quote that is open and nothing else
(`openQuote`).  A text has words exactly if no quote is open at its end
(`isSome_words_iff`).

Splitting drops quotes and separators and adds nothing: the words are made of
characters of the text (`mem_of_mem_words`).
-/

namespace MakeTools.Shell

/-! ## Open quotes -/

/-- The quote that is open behind one more character.  A quote is closed by
its own mark only. -/
def quoteStep : Option Char → Char → Option Char
  | none, c => if isQuote c then some c else none
  | some mark, c => if c = mark then none else some mark

/-- The quote that is open at the end of a text. -/
def openQuote (s : List Char) : Option Char := s.foldl quoteStep none

/-- The quote that a reader of words stands in. -/
def State.mark? : State → Option Char
  | .quote mark _ => some mark
  | .between | .word _ => none

theorem isQuote_of_isSeparator {c : Char} (h : isSeparator c = true) : isQuote c = false := by
  simp only [isSeparator, Bool.or_eq_true, beq_iff_eq] at h
  rcases h with ((rfl | rfl) | rfl) | rfl <;> decide

theorem quoteStep_none_of_isQuote {c : Char} (h : isQuote c = true) :
    quoteStep none c = some c := if_pos h

theorem quoteStep_none_of_not_isQuote {c : Char} (h : isQuote c = false) :
    quoteStep none c = none := by
  rw [quoteStep, h]
  rfl

/-! ## Splitting -/

/-- A reader gets through a text exactly if the text closes the quote that the
reader stands in, and every quote that it opens. -/
theorem isSome_wordsFrom_iff (st : State) (s : List Char) :
    (wordsFrom st s).isSome = true ↔ s.foldl quoteStep st.mark? = none := by
  induction s generalizing st with
  | nil => cases st <;> simp [wordsFrom, State.mark?]
  | cons c s ih =>
      rw [List.foldl_cons]
      cases st with
      | between =>
          rw [wordsFrom, State.mark?]
          by_cases hs : isSeparator c = true
          · rw [if_pos hs, ih, quoteStep_none_of_not_isQuote (isQuote_of_isSeparator hs),
              State.mark?]
          · rw [if_neg hs]
            cases hq : isQuote c with
            | true => rw [if_pos rfl, ih, quoteStep_none_of_isQuote hq, State.mark?]
            | false =>
                rw [if_neg Bool.false_ne_true, ih, quoteStep_none_of_not_isQuote hq, State.mark?]
      | word soFar =>
          rw [wordsFrom, State.mark?]
          by_cases hs : isSeparator c = true
          · rw [if_pos hs, Option.isSome_map, ih,
              quoteStep_none_of_not_isQuote (isQuote_of_isSeparator hs), State.mark?]
          · rw [if_neg hs]
            cases hq : isQuote c with
            | true => rw [if_pos rfl, ih, quoteStep_none_of_isQuote hq, State.mark?]
            | false =>
                rw [if_neg Bool.false_ne_true, ih, quoteStep_none_of_not_isQuote hq, State.mark?]
      | quote mark soFar =>
          rw [wordsFrom, State.mark?, quoteStep]
          by_cases hm : c = mark
          · rw [if_pos hm, if_pos hm, ih, State.mark?]
          · rw [if_neg hm, if_neg hm, ih, State.mark?]

/-- A text has words exactly if no quote is open at its end. -/
theorem isSome_words_iff (s : String) :
    (words s).isSome = true ↔ openQuote s.toList = none := by
  rw [words, Option.isSome_map, isSome_wordsFrom_iff, openQuote, State.mark?]

/-! ## Characters of words -/

/-- What a reader of words has read of the current word. -/
def State.soFar : State → List Char
  | .between => []
  | .word soFar | .quote _ soFar => soFar

/-- Every character of a word was read before or stands in the text. -/
theorem mem_of_mem_wordsFrom {st : State} {s : List Char} {ws : List (List Char)}
    (h : wordsFrom st s = some ws) {w : List Char} (hw : w ∈ ws) {c : Char} (hc : c ∈ w) :
    c ∈ st.soFar ∨ c ∈ s := by
  induction s generalizing st ws with
  | nil =>
      cases st with
      | between =>
          obtain rfl := Option.some.inj h
          exact absurd hw List.not_mem_nil
      | word soFar =>
          obtain rfl := Option.some.inj h
          obtain rfl := List.mem_singleton.1 hw
          exact .inl hc
      | quote mark soFar => contradiction
  | cons d s ih =>
      -- One more character read adds at most itself to the current word.
      have hnext : ∀ (next : State) {ws : List (List Char)}, wordsFrom next s = some ws → w ∈ ws →
          (∀ e ∈ next.soFar, e ∈ st.soFar ∨ e = d) → c ∈ st.soFar ∨ c ∈ d :: s := by
        intro next ws h hw hsub
        rcases ih h hw with hs | hs
        · rcases hsub c hs with hs | rfl
          · exact .inl hs
          · exact .inr List.mem_cons_self
        · exact .inr (List.mem_cons_of_mem d hs)
      cases st with
      | between =>
          rw [wordsFrom] at h
          split at h
          · exact hnext _ h hw (by simp [State.soFar])
          · split at h
            · exact hnext _ h hw (by simp [State.soFar])
            · exact hnext _ h hw (by simp [State.soFar])
      | word soFar =>
          rw [wordsFrom] at h
          split at h
          · obtain ⟨rest, hr, rfl⟩ := Option.map_eq_some_iff.1 h
            rcases List.mem_cons.1 hw with rfl | hw
            · exact .inl hc
            · exact hnext _ hr hw (by simp [State.soFar])
          · split at h
            · exact hnext _ h hw (fun e he => .inl he)
            · exact hnext _ h hw (by simp [State.soFar])
      | quote mark soFar =>
          rw [wordsFrom] at h
          split at h
          · exact hnext _ h hw (fun e he => .inl he)
          · exact hnext _ h hw (by simp [State.soFar])

/-- The words of a text hold no characters but those of the text. -/
theorem mem_of_mem_words {s : String} {ws : List String} (h : words s = some ws) {w : String}
    (hw : w ∈ ws) {c : Char} (hc : c ∈ w.toList) : c ∈ s.toList := by
  obtain ⟨pieces, hp, rfl⟩ := Option.map_eq_some_iff.1 h
  obtain ⟨piece, hm, rfl⟩ := List.mem_map.1 hw
  rw [String.toList_ofList] at hc
  exact (mem_of_mem_wordsFrom hp hm hc).resolve_left List.not_mem_nil

end MakeTools.Shell
