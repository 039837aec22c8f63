import MakeTools.Makefile.Line

/-!
# MakeTools.Makefile.Recipe

The recipe block of a target, and the variables that a block mentions.

A block is made of the lines behind the target's first heading that start with
a tab or open with a conditional word.  Blank lines and comments at the start
of a line are passed over; anything else ends the block.  A block mentions a
variable by a reference, `$(NAME)` or `${NAME}`, or by a test for its
existence, `ifdef NAME` or `ifndef NAME`.
-/

namespace MakeTools.Recipe

open Text Line

/-! ## The block -/

/-- Is the line part of a recipe? -/
def belongs (line : Line) : Bool := line.head? == some '\t' || isConditional line

/-- Does the line end a recipe?  Blank lines and comments at the start of a
line do not. -/
def ends (line : Line) : Bool :=
  !belongs line && !(trim line).isEmpty && !(line.head? == some '#')

/-- The recipe lines at the head of a list of lines. -/
def blockHere (ls : List Line) : List Line :=
  (ls.takeWhile fun line => !ends line).filter belongs

/-- The recipe block of a target: what follows its first heading. -/
def block (ls : List Line) (name : String) : List Line :=
  blockHere ((ls.dropWhile fun line => !opens name line).drop 1)

/-! ## References -/

/-- A name between brackets at the head of a text, behind the dollar sign.
The two brackets may be of different kinds. -/
def bracketed? : List Char → Option String
  | '(' :: s | '\x7b' :: s =>
    let name := s.takeWhile isWordChar
    match s.dropWhile isWordChar with
    | ')' :: _ | '\x7d' :: _ => if name.isEmpty then none else some (String.ofList name)
    | _ => none
  | _ => none

/-- The name of the reference at the head of a text. -/
def reference? : List Char → Option String
  | '$' :: s => bracketed? s
  | _ => none

/-- The names of all references in a text, in order.  A dollar sign counts
wherever it stands, behind another dollar sign too. -/
def references : List Char → List String
  | [] => []
  | c :: s => (reference? (c :: s)).toList ++ references s

/-! ## Existence tests -/

/-- The name at the head of a text, and what follows it. -/
def word? (s : List Char) : Option (String × List Char) :=
  if s.head?.any isWordChar then
    some (String.ofList (s.takeWhile isWordChar), s.dropWhile isWordChar)
  else none

/-- What follows `ifdef` or `ifndef` at the head of a text. -/
def afterTest? (s : List Char) : Option (List Char) :=
  ("ifdef".toList.isPrefixOf? s).or ("ifndef".toList.isPrefixOf? s)

/-- The name tested at the head of a text, and what follows it: blanks, the
test word, at least one blank, a name.  The blanks may reach over line ends. -/
def test? (s : List Char) : Option (String × List Char) :=
  match afterTest? (trimLeft s) with
  | some (c :: rest) => if isBlank c then word? (trimLeft rest) else none
  | _ => none

theorem length_afterTest?_le {s r : List Char} (h : afterTest? s = some r) :
    r.length ≤ s.length := by
  simp only [afterTest?, Option.or_eq_some_iff] at h
  rcases h with h | ⟨_, h⟩ <;> exact length_le_of_isPrefixOf? h

theorem length_word?_le {s r : List Char} {name : String} (h : word? s = some (name, r)) :
    r.length ≤ s.length := by
  unfold word? at h
  split at h
  · simp only [Option.some.injEq, Prod.mk.injEq] at h
    obtain ⟨-, rfl⟩ := h
    exact (List.dropWhile_sublist _).length_le
  · simp at h

/-- A test takes at least one character. -/
theorem length_test?_lt {s r : List Char} {name : String} (h : test? s = some (name, r)) :
    r.length < s.length := by
  unfold test? at h
  split at h
  · rename_i c rest hc
    split at h
    · have h1 := length_word?_le h
      have h2 : (trimLeft rest).length ≤ rest.length := length_trimLeft_le rest
      have h3 := length_afterTest?_le hc
      have h4 : (trimLeft s).length ≤ s.length := length_trimLeft_le s
      simp only [List.length_cons] at h3
      omega
    · simp at h
  · simp at h

/-- A test at the head of a text, if one may stand there. -/
def testHere? (fresh : Bool) (s : List Char) : Option (String × List Char) :=
  if fresh then test? s else none

theorem length_testHere?_lt {fresh : Bool} {s r : List Char} {name : String}
    (h : testHere? fresh s = some (name, r)) : r.length < s.length := by
  unfold testHere? at h
  split at h
  · exact length_test?_lt h
  · simp at h

/-- The names tested in a text, in order.  A test is looked for at the start
of the text, if `fresh`, and behind each line feed; the search goes on behind
the test that was found. -/
def testsFrom (fresh : Bool) (s : List Char) : List String :=
  match _h : testHere? fresh s with
  | some (name, rest) => name :: testsFrom false rest
  | none =>
    match s with
    | [] => []
    | c :: s => testsFrom (c == '\n') s
termination_by s.length
decreasing_by
  · exact length_testHere?_lt _h
  · simp

/-- The names whose existence a text tests, in order. -/
def tests (s : List Char) : List String := testsFrom true s

/-! ## Mentions -/

/-- The names that a recipe block refers to. -/
def referred (recipe : List Line) : List String := references (unlines recipe)

/-- The names whose existence a recipe block tests. -/
def tested (recipe : List Line) : List String := tests (unlines recipe)

/-- The names that a recipe block mentions, each once: references first, then
existence tests, by first occurrence. -/
def mentioned (recipe : List Line) : List String :=
  (referred recipe ++ tested recipe).eraseDups

end MakeTools.Recipe
