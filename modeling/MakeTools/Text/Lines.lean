/-!
# MakeTools.Text.Lines

A text as a list of lines.  A line feed ends a line and nothing else does, so
a text with `n` line feeds has `n + 1` lines, the last of them possibly empty.
Files are read with every line ending turned into a line feed first.
-/

namespace MakeTools

/-- One line of a text, without its line feed. -/
abbrev Line := List Char

namespace Text

/-- The lines of a text. -/
def lines (s : List Char) : List Line := s.splitOn '\n'

/-- Put lines together again, with a line feed between each two. -/
def unlines (ls : List Line) : List Char := ['\n'].intercalate ls

/-- A line feed ends a line, and any other character belongs to it. -/
theorem lines_cons (c : Char) (s : List Char) :
    lines (c :: s) = if c == '\n' then [] :: lines s else (lines s).modifyHead (c :: ·) :=
  List.splitOn_cons_eq_if_modifyHead c s

/-- No line holds a line feed. -/
theorem not_mem_of_mem_lines {s : List Char} {line : Line} (h : line ∈ lines s) : '\n' ∉ line := by
  induction s generalizing line with
  | nil =>
    rw [lines, List.splitOn_nil, List.mem_singleton] at h
    simp [h]
  | cons c s ih =>
    rw [lines_cons] at h
    split at h
    · rcases List.mem_cons.1 h with rfl | h
      · simp
      · exact ih h
    · next hc =>
      obtain ⟨l, ls, hl⟩ := List.exists_cons_of_ne_nil (List.splitOn_ne_nil '\n' s)
      have hs : ∀ l' ∈ l :: ls, '\n' ∉ l' := fun l' hm => ih (by rw [lines, hl]; exact hm)
      rw [lines, hl, List.modifyHead_cons] at h
      rcases List.mem_cons.1 h with rfl | h
      · rw [List.mem_cons, not_or]
        exact ⟨fun he => hc (beq_iff_eq.2 he.symm), hs l List.mem_cons_self⟩
      · exact hs line (List.mem_cons_of_mem _ h)

/-- Lines are what was put together, if none of them holds a line feed. -/
theorem lines_unlines {ls : List Line} (h : ∀ line ∈ ls, '\n' ∉ line) (hne : ls ≠ []) :
    lines (unlines ls) = ls :=
  List.splitOn_intercalate '\n' h hne

theorem unlines_cons_cons (l m : Line) (ls : List Line) :
    unlines (l :: m :: ls) = l ++ '\n' :: unlines (m :: ls) := by
  simp [unlines, List.intercalate]

/-- Turn each carriage return, with the line feed behind it if there is one,
into one line feed. -/
def universalNewlines : List Char → List Char
  | '\r' :: '\n' :: s => '\n' :: universalNewlines s
  | '\r' :: s => '\n' :: universalNewlines s
  | c :: s => c :: universalNewlines s
  | [] => []

end Text
end MakeTools
