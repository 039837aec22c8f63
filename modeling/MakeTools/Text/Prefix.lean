/-!
# MakeTools.Text.Prefix

Taking a fixed beginning off a text, which is `List.isPrefixOf?`: it succeeds
exactly on the texts that start so, and gives what follows.
-/

namespace MakeTools.Text

/-- Taking a beginning off gives what follows it. -/
theorem isPrefixOf?_eq_some_iff {p s r : List Char} : p.isPrefixOf? s = some r ↔ s = p ++ r := by
  induction p generalizing s with
  | nil =>
    change some s = some r ↔ s = r
    rw [Option.some.injEq]
  | cons a p ih =>
    cases s with
    | nil =>
      change none = some r ↔ [] = a :: (p ++ r)
      simp
    | cons b s =>
      change (if a == b then p.isPrefixOf? s else none) = some r ↔ b :: s = a :: (p ++ r)
      by_cases h : a = b
      · simp [h, ih]
      · simp [h, Ne.symm h]

/-- What follows a beginning is no longer than the text. -/
theorem length_le_of_isPrefixOf? {p s r : List Char} (h : p.isPrefixOf? s = some r) :
    r.length ≤ s.length := by
  simp [isPrefixOf?_eq_some_iff.1 h]

end MakeTools.Text
