import MakeTools.Proofs.Variables

/-!
# MakeTools.Proofs.Expansion

References that make expands.

In a recipe make reads two dollar signs as one that the shell is to see, and it
ends a reference at the bracket that matches the first one.  The search for
references heeds neither: of a run of dollar signs it looks at the last only,
and either bracket may close what the other opens.  What it finds at a place is
thus one of three things (`refersAt_iff`): a reference that make expands
(`ExpandsAt`), one whose dollar sign is escaped (`EscapedAt`), or one between
brackets of two kinds (`CrossedAt`).  The last two make a variable required all
the same.
-/

namespace MakeTools

open Text Line

namespace Recipe

variable {s : List Char} {i : Nat} {name : String}

/-! ## Places of a text -/

/-- The dollar signs right in front of a place of the text. -/
def dollarsBefore (s : List Char) (i : Nat) : Nat :=
  ((s.take i).reverse.takeWhile (· == '$')).length

/-- The brackets that a reference stands in. -/
def matchedBrackets : List (Char × Char) := [('(', ')'), ('\x7b', '\x7d')]

/-- A bracket of one kind and one of the other. -/
def crossedBrackets : List (Char × Char) := [('(', '\x7d'), ('\x7b', ')')]

/-- A dollar sign and the name between brackets. -/
def spelled (name : String) (brackets : Char × Char) : List Char :=
  '$' :: brackets.1 :: (name.toList ++ [brackets.2])

/-- Make expands the name at this place: an even number of dollar signs stands
in front of the reference, so that its own is not escaped, and its brackets
match. -/
def ExpandsAt (s : List Char) (i : Nat) (name : String) : Prop :=
  dollarsBefore s i % 2 = 0 ∧ ∃ b ∈ matchedBrackets, spelled name b <+: s.drop i

/-- The dollar sign at this place is escaped by the one in front of it. -/
def EscapedAt (s : List Char) (i : Nat) (name : String) : Prop :=
  dollarsBefore s i % 2 = 1 ∧ ∃ b ∈ matchedBrackets, spelled name b <+: s.drop i

/-- The brackets at this place are of two kinds. -/
def CrossedAt (s : List Char) (i : Nat) (name : String) : Prop :=
  ∃ b ∈ crossedBrackets, spelled name b <+: s.drop i

instance (s : List Char) (i : Nat) (name : String) : Decidable (ExpandsAt s i name) :=
  inferInstanceAs (Decidable (_ ∧ _))

instance (s : List Char) (i : Nat) (name : String) : Decidable (EscapedAt s i name) :=
  inferInstanceAs (Decidable (_ ∧ _))

theorem ExpandsAt.lt_length (h : ExpandsAt s i name) : i < s.length := by
  obtain ⟨-, b, -, rest, hrest⟩ := h
  have hlen := congrArg List.length hrest
  simp only [spelled, List.length_append, List.length_cons, List.length_drop] at hlen
  omega

instance (s : List Char) (name : String) : Decidable (∃ i, ExpandsAt s i name) :=
  decidable_of_iff (∃ i, i < s.length ∧ ExpandsAt s i name)
    (exists_congr fun _ => and_iff_right_of_imp ExpandsAt.lt_length)

/-- A reference stands in brackets of one kind or of two. -/
theorem isReference_iff (hn : IsWord name) :
    IsReference name s ↔
      (∃ b ∈ matchedBrackets, spelled name b <+: s) ∨
        ∃ b ∈ crossedBrackets, spelled name b <+: s := by
  have hspelled : ∀ b : Char × Char, spelled name b <+: s ↔
      ∃ rest, s = '$' :: b.1 :: (name.toList ++ b.2 :: rest) := by
    intro b
    simp [List.IsPrefix, spelled, eq_comm]
  simp only [IsReference, hn, and_true, hspelled, matchedBrackets, crossedBrackets, List.mem_cons,
    List.not_mem_nil, or_false, exists_eq_or_imp, exists_eq_left]
  constructor
  · intro h
    obtain ⟨opening, closing, rest, hs, ho, hc⟩ := h
    cases ho with
    | inl ho =>
      subst ho
      cases hc with
      | inl hc => exact .inl (.inl ⟨rest, by rw [hs, hc]⟩)
      | inr hc => exact .inr (.inl ⟨rest, by rw [hs, hc]⟩)
    | inr ho =>
      subst ho
      cases hc with
      | inl hc => exact .inr (.inr ⟨rest, by rw [hs, hc]⟩)
      | inr hc => exact .inl (.inr ⟨rest, by rw [hs, hc]⟩)
  · intro h
    obtain (⟨rest, hs⟩ | ⟨rest, hs⟩) | ⟨rest, hs⟩ | ⟨rest, hs⟩ := h
    · exact ⟨'(', ')', rest, hs, .inl rfl, .inl rfl⟩
    · exact ⟨'\x7b', '\x7d', rest, hs, .inr rfl, .inr rfl⟩
    · exact ⟨'(', '\x7d', rest, hs, .inl rfl, .inr rfl⟩
    · exact ⟨'\x7b', ')', rest, hs, .inr rfl, .inl rfl⟩

/-- What is found at a place is a reference that make expands, one whose dollar
sign is escaped, or one between brackets of two kinds. -/
theorem refersAt_iff (hn : IsWord name) :
    RefersAt s i name ↔ ExpandsAt s i name ∨ EscapedAt s i name ∨ CrossedAt s i name := by
  rw [RefersAt, isReference_iff hn, ExpandsAt, EscapedAt, CrossedAt, ← or_assoc, ← or_and_right]
  refine or_congr_left (and_iff_right ?_).symm
  exact Nat.mod_two_eq_zero_or_one _

/-- A name is referred to if make expands it somewhere, or if it stands in one of
the other two ways. -/
theorem exists_refersAt_iff (hn : IsWord name) :
    (∃ i, RefersAt s i name) ↔
      (∃ i, ExpandsAt s i name) ∨ ∃ i, EscapedAt s i name ∨ CrossedAt s i name := by
  simp only [refersAt_iff hn, exists_or]

end Recipe

namespace Catalog

open Recipe

variable {window : Int} {path : Path} {text : String} {t : Target}

/-- **A required variable** has no line that gives it a value, and the recipe
has its name at some place where make expands it, where the dollar sign is
escaped, or between brackets of two kinds.  So every required variable of a
target is one that make expands, exactly if each name that stands in one of the
last two ways without a value is also expanded elsewhere. -/
theorem required_expands_iff (h : t ∈ (ofText window path text).targets) :
    let ls := lines text.toList
    let recipe := unlines (Recipe.block ls t.name)
    (∀ v ∈ t.mentions, v.required = true ↔ (∀ line ∈ ls, ¬ Assigns v.name line) ∧
      ((∃ i, ExpandsAt recipe i v.name) ∨
        ∃ i, EscapedAt recipe i v.name ∨ CrossedAt recipe i v.name)) ∧
    ((∀ v ∈ t.mentions, v.required = true → ∃ i, ExpandsAt recipe i v.name) ↔
      ∀ name, IsWord name → (∀ line ∈ ls, ¬ Assigns name line) →
        (∃ i, EscapedAt recipe i name ∨ CrossedAt recipe i name) →
        ∃ i, ExpandsAt recipe i name) := by
  intro ls recipe
  have hrequired : ∀ v ∈ t.mentions, v.required = true ↔
      (∀ line ∈ ls, ¬ Assigns v.name line) ∧ ((∃ i, ExpandsAt recipe i v.name) ∨
        ∃ i, EscapedAt recipe i v.name ∨ CrossedAt recipe i v.name) := by
    intro v hv
    rw [(describes_of_mem_mentions h hv).required, and_comm, referred, mem_references_iff,
      exists_refersAt_iff (isWord_of_mem_mentions h hv)]
  refine ⟨hrequired, ?_⟩
  constructor
  · intro hall name hw hno hstray
    have hm : name ∈ t.mentions.map (·.name) := by
      rw [map_name_mentions h, mentioned, List.mem_eraseDups, List.mem_append]
      exact .inl (mem_references_iff.2 ((exists_refersAt_iff hw).2 (.inr hstray)))
    obtain ⟨v, hv, rfl⟩ := List.mem_map.1 hm
    exact hall v hv ((hrequired v hv).2 ⟨hno, .inr hstray⟩)
  · intro hall v hv hr
    obtain ⟨hno, hrefers⟩ := (hrequired v hv).1 hr
    cases hrefers with
    | inl hexpands => exact hexpands
    | inr hstray => exact hall v.name (isWord_of_mem_mentions h hv) hno hstray

/-- An escaped reference does no harm to a name that make expands elsewhere, nor
to one that has a value. -/
theorem required_expands_of_escaped_twin :
    ∃ t ∈ (ofText 4 ⟨.relative, ["Makefile"]⟩ "run:\n\t$$(A) $(A) $$(D)\nD = 1\n").targets,
      unlines (Recipe.block (lines "run:\n\t$$(A) $(A) $$(D)\nD = 1\n".toList) t.name) =
        "\t$$(A) $(A) $$(D)".toList ∧
      EscapedAt "\t$$(A) $(A) $$(D)".toList 2 "A" ∧
      EscapedAt "\t$$(A) $(A) $$(D)".toList 13 "D" ∧
      (t.mentions.filter (·.required)).map (·.name) = ["A"] ∧
      ∀ v ∈ t.mentions, v.required = true →
        ∃ i, ExpandsAt "\t$$(A) $(A) $$(D)".toList i v.name := by
  obtain ⟨t, ht, hname, hnames⟩ : ∃ t ∈ (ofText 4 ⟨.relative, ["Makefile"]⟩
      "run:\n\t$$(A) $(A) $$(D)\nD = 1\n").targets, t.name = "run" ∧
      (t.mentions.filter (·.required)).map (·.name) = ["A"] := by decide +kernel
  have hrecipe : unlines (Recipe.block (lines "run:\n\t$$(A) $(A) $$(D)\nD = 1\n".toList) t.name) =
      "\t$$(A) $(A) $$(D)".toList := by
    rw [hname]
    decide +kernel
  have hexpands := (required_expands_iff ht).2
  rw [hrecipe] at hexpands
  refine ⟨t, ht, hrecipe, by decide, by decide, hnames, hexpands.2 ?_⟩
  intro name hw hno hstray
  have hrefs : references "\t$$(A) $(A) $$(D)".toList = ["A", "A", "D"] := by decide +kernel
  have hm := mem_references_iff.2 ((exists_refersAt_iff hw).2 (.inr hstray))
  rw [hrefs] at hm
  obtain rfl | rfl : name = "A" ∨ name = "D" := by simpa using hm
  · exact ⟨7, by decide⟩
  · exact absurd (assigns_iff.1 (by decide +kernel)) (hno "D = 1".toList (by decide +kernel))

/-- A command for the shell, and a name between brackets of two kinds, make a
variable required that make does not expand anywhere. -/
theorem exists_required_not_expanded :
    (∃ t ∈ (ofText 4 ⟨.relative, ["Makefile"]⟩ "build:\n\techo $$(date)\n").targets,
      ∃ v ∈ t.mentions, v.required = true ∧ ¬ ∃ i, ExpandsAt
        (unlines (Recipe.block (lines "build:\n\techo $$(date)\n".toList) t.name)) i v.name) ∧
    ∃ t ∈ (ofText 4 ⟨.relative, ["Makefile"]⟩ "build:\n\techo $(NAME\x7d\n").targets,
      ∃ v ∈ t.mentions, v.required = true ∧ ¬ ∃ i, ExpandsAt
        (unlines (Recipe.block (lines "build:\n\techo $(NAME\x7d\n".toList) t.name)) i v.name := by
  exact ⟨by decide +kernel, by decide +kernel⟩

end Catalog
end MakeTools
