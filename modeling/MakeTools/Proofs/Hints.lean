import Mathlib.Data.List.Forall2
import MakeTools.Catalog.Reader
import MakeTools.Proofs.Lexing

/-!
# MakeTools.Proofs.Hints

Usage hints, and how far up they are looked for.

A hint stands behind a number sign, a hint word and a colon, and goes on to the
end of the line; of several places on a line the first counts
(`hint?_eq_some_iff`).  The hint of a declaration is that of the nearest comment
line that has one, in the run of comment lines directly above, as far as the
window reaches (`Situated.hint?_eq_some_iff`).

A window bounds nothing but the distance.  A wider one finds the same hint or
one further up, a window of no lines finds none, and one that reaches over all
lines cannot be widened.  What else a catalog holds depends on no window
(`hints_within`).
-/

namespace MakeTools

open Text Line

/-! ## Trimmed texts -/

namespace Text

variable {s : List Char}

/-- A text that neither begins nor ends with a blank. -/
def IsTrimmed (s : List Char) : Prop :=
  s.head?.any isBlank = false ∧ s.getLast?.any isBlank = false

instance (s : List Char) : Decidable (IsTrimmed s) := inferInstanceAs (Decidable (_ ∧ _))

theorem head?_trimLeft (s : List Char) : (trimLeft s).head?.any isBlank = false :=
  head?_dropWhile isBlank s

theorem getLast?_trim (s : List Char) : (trim s).getLast?.any isBlank = false := by
  rw [trim, trimRight, List.getLast?_reverse]
  exact head?_dropWhile isBlank _

theorem trimLeft_eq_self (h : s.head?.any isBlank = false) : trimLeft s = s := by
  cases s with
  | nil => rfl
  | cons c s => exact trimLeft_cons_of_not_isBlank s (by simpa using h)

/-- Nothing is trimmed behind a character that is not blank. -/
theorem trimRight_eq_self (h : s.getLast?.any isBlank = false) : trimRight s = s := by
  have hr : trimLeft s.reverse = s.reverse := by
    apply trimLeft_eq_self
    rwa [List.head?_reverse]
  rw [trimRight, ← trimLeft, hr, List.reverse_reverse]

/-- What stands in front of a text does not change its end. -/
theorem getLast?_of_append {s t : List Char} (ht : t ≠ [])
    (h : (s ++ t).getLast?.any isBlank = false) : t.getLast?.any isBlank = false := by
  rwa [List.getLast?_append, List.getLast?_eq_some_getLast ht, Option.some_or,
    ← List.getLast?_eq_some_getLast ht] at h

/-- Of a text that does not end with a blank, trimming leaves something, and only
blanks in front are taken away. -/
theorem trim_of_getLast? (hne : s ≠ []) (h : s.getLast?.any isBlank = false) :
    trim s = trimLeft s ∧ trim s ≠ [] ∧ IsTrimmed (trim s) := by
  obtain ⟨gap, hg, hs⟩ := exists_append_trimLeft s
  have hl : trimLeft s ≠ [] := by
    intro hnil
    -- otherwise the last character would be one of the blanks in front
    rw [hnil, List.append_nil] at hs
    have hlast : s.getLast?.any isBlank = true := by
      rw [List.getLast?_eq_some_getLast hne, Option.any_some]
      exact hg _ (hs ▸ List.getLast_mem hne)
    rw [h] at hlast
    contradiction
  have hend : (trimLeft s).getLast?.any isBlank = false := by
    rw [hs] at h
    exact getLast?_of_append hl h
  have ht : trim s = trimLeft s := by rw [trim, trimRight_eq_self hend]
  rw [ht]
  exact ⟨rfl, hl, head?_trimLeft s, hend⟩

end Text

/-! ## Hints on a line -/

namespace Line

variable {s rest word : List Char} {hint : String} {line : Line}

/-- A hint word, in either case. -/
def IsHintWord (word : List Char) : Prop := word.map foldCase ∈ hintWords.map String.toList

/-- A hint stands at the head of a text, which it ends: a number sign, blanks, a
hint word, a colon, blanks, and the hint, which begins and ends with no blank. -/
def IsHint (hint : String) (s : List Char) : Prop :=
  ∃ gap word gap', s = '#' :: (gap ++ (word ++ ':' :: (gap' ++ hint.toList))) ∧
    (∀ c ∈ gap, isBlank c = true) ∧ IsHintWord word ∧ (∀ c ∈ gap', isBlank c = true) ∧
    hint.toList ≠ [] ∧ IsTrimmed hint.toList

/-- Of all places on the line where a hint stands, this hint stands at the
first. -/
def FirstHint (hint : String) (line : Line) : Prop :=
  ∃ i, IsHint hint ((trim line).drop i) ∧
    ∀ j < i, ∀ other, ¬ IsHint other ((trim line).drop j)

theorem afterWord?_eq_some_iff {folded : List Char} :
    afterWord? folded s = some rest ↔ ∃ word, s = word ++ ':' :: rest ∧ word.map foldCase = folded := by
  induction folded generalizing s with
  | nil =>
      cases s with
      | nil => simp [afterWord?]
      | cons c s =>
          by_cases hc : c = ':'
          · simp [afterWord?, hc]
          · simp [afterWord?, hc]
  | cons f folded ih =>
      cases s with
      | nil => simp [afterWord?]
      | cons c s =>
          rw [afterWord?]
          constructor
          · intro h
            split at h
            · next hc =>
              obtain ⟨word, hs, hw⟩ := ih.1 h
              exact ⟨c :: word, by rw [hs, List.cons_append],
                by rw [List.map_cons, hw, beq_iff_eq.1 hc]⟩
            · contradiction
          · intro h
            obtain ⟨word, hs, hw⟩ := h
            obtain ⟨d, word', hword, hd, hw'⟩ := List.map_eq_cons_iff.1 hw
            rw [hword, List.cons_append] at hs
            obtain ⟨hcd, hs'⟩ := List.cons.inj hs
            rw [if_pos (beq_iff_eq.2 (hcd ▸ hd))]
            exact ih.2 ⟨word', hs', hw'⟩

/-- A hint word holds no colon. -/
theorem IsHintWord.colon_not_mem (h : IsHintWord word) : ':' ∉ word := by
  have hwords : ((hintWords.map String.toList).all fun w => !w.contains ':') = true := by decide
  intro hm
  have hf : ':' ∈ word.map foldCase := List.mem_map.2 ⟨':', hm, by decide⟩
  have hno := List.all_eq_true.1 hwords _ h
  rw [List.contains_iff_mem.2 hf] at hno
  contradiction

/-- A blank is the same in either case. -/
theorem foldCase_of_isBlank {c : Char} (h : isBlank c = true) : foldCase c = c := by
  have hs : (c == 'ſ') = false := by
    rw [beq_eq_false_iff_ne]
    exact ne_of_isBlank h (by decide)
  have hu : c.isUpper = false := by
    by_contra hu
    rw [Bool.not_eq_false] at hu
    have hletter : c.isAlpha = (c.isUpper || c.isLower) := rfl
    have hstart : isNameStart c = true := by simp [isNameStart, hletter, hu]
    rw [isBlank_eq_false_of_isNameStart hstart] at h
    contradiction
  have hr : ¬ (c.val ≥ 'A'.val ∧ c.val ≤ 'Z'.val) := of_decide_eq_false hu
  have hlower : c.toLower = c := dif_neg hr
  rw [foldCase, if_neg (by rw [hs]; decide), hlower]

/-- A hint word begins with no blank. -/
theorem IsHintWord.trimLeft_append (h : IsHintWord word) {gap : List Char}
    (hg : ∀ c ∈ gap, isBlank c = true) (rest : List Char) :
    trimLeft (gap ++ (word ++ rest)) = word ++ rest := by
  have hwords : ((hintWords.map String.toList).all fun w => w.head?.any fun c => !isBlank c) =
      true := by decide
  have hw := List.all_eq_true.1 hwords _ h
  rw [Text.trimLeft_append hg]
  cases word with
  | nil => contradiction
  | cons c word =>
      have hc : isBlank c = false := by
        by_contra hc
        rw [Bool.not_eq_false] at hc
        rw [List.map_cons, List.head?_cons, Option.any_some, foldCase_of_isBlank hc, hc] at hw
        contradiction
      exact trimLeft_cons_of_not_isBlank _ hc

/-- What follows a hint word does not depend on which hint words are tried
first: only one of them can stand in front of a colon. -/
theorem findSome?_afterWord?_eq_some_iff :
    (hintWords.findSome? fun w => afterWord? w.toList s) = some rest ↔
      ∃ word, IsHintWord word ∧ s = word ++ ':' :: rest := by
  have hread : ∀ {t}, (hintWords.findSome? fun w => afterWord? w.toList s) = some t →
      ∃ word, IsHintWord word ∧ s = word ++ ':' :: t := by
    intro t ht
    obtain ⟨w, hw, ha⟩ := List.exists_of_findSome?_eq_some ht
    obtain ⟨word, hs, hf⟩ := afterWord?_eq_some_iff.1 ha
    exact ⟨word, List.mem_map.2 ⟨w, hw, hf.symm⟩, hs⟩
  constructor
  · exact hread
  · intro h
    obtain ⟨word, hw, hs⟩ := h
    obtain ⟨w, hm, hf⟩ := List.mem_map.1 hw
    have ha : afterWord? w.toList s = some rest := afterWord?_eq_some_iff.2 ⟨word, hs, hf.symm⟩
    have hsome : (hintWords.findSome? fun w => afterWord? w.toList s).isSome = true := by
      rw [List.findSome?_isSome_iff]
      exact ⟨w, hm, by rw [ha]; rfl⟩
    obtain ⟨t, ht⟩ := Option.isSome_iff_exists.1 hsome
    obtain ⟨other, ho, hs'⟩ := hread ht
    obtain ⟨-, hrest⟩ := append_cons_inj ho.colon_not_mem hw.colon_not_mem (hs'.symm.trans hs)
    rw [ht, hrest]

/-- What is read at the head of a text: a number sign, blanks, a hint word, a
colon, and something behind it, which is the hint without the blanks around
it. -/
theorem hintHere?_eq_some_iff_trim :
    hintHere? s = some hint ↔
      ∃ gap word rest, s = '#' :: (gap ++ (word ++ ':' :: rest)) ∧
        (∀ c ∈ gap, isBlank c = true) ∧ IsHintWord word ∧ rest ≠ [] ∧
        hint.toList = trim rest := by
  constructor
  · intro h
    unfold hintHere? at h
    split at h
    · next s =>
      split at h
      · next c rest hf =>
        obtain ⟨word, hw, ht⟩ := findSome?_afterWord?_eq_some_iff.1 hf
        obtain ⟨gap, hg, hs⟩ := exists_append_trimLeft s
        refine ⟨gap, word, c :: rest, by rw [← ht, ← hs], hg, hw, List.cons_ne_nil _ _, ?_⟩
        rw [← Option.some.inj h, String.toList_ofList]
      · contradiction
    · contradiction
  · intro h
    obtain ⟨gap, word, rest, hs, hg, hw, hne, hh⟩ := h
    obtain ⟨c, rest', hrest⟩ := List.exists_cons_of_ne_nil hne
    have hf : (hintWords.findSome? fun w =>
        afterWord? w.toList (trimLeft (gap ++ (word ++ ':' :: rest)))) = some rest := by
      rw [hw.trimLeft_append hg]
      exact findSome?_afterWord?_eq_some_iff.2 ⟨word, hw, rfl⟩
    rw [hs, hintHere?, hf, hrest]
    dsimp only
    rw [← hrest, ← hh, String.ofList_toList]

/-- A hint that is read in a trimmed line goes on to its end. -/
theorem hintHere?_eq_some_iff (hs : s.getLast?.any isBlank = false) :
    hintHere? s = some hint ↔ IsHint hint s := by
  rw [hintHere?_eq_some_iff_trim]
  constructor
  · intro h
    obtain ⟨gap, word, rest, he, hg, hw, hne, hh⟩ := h
    have hrest : rest.getLast?.any isBlank = false := by
      have happ : s = ('#' :: (gap ++ (word ++ [':']))) ++ rest := by rw [he]; simp
      exact getLast?_of_append hne (happ ▸ hs)
    obtain ⟨hleft, hnil, htrim⟩ := trim_of_getLast? hne hrest
    obtain ⟨gap', hg', hr⟩ := exists_append_trimLeft rest
    rw [← hh] at hleft hnil htrim
    exact ⟨gap, word, gap', by rw [he, hleft, ← hr], hg, hw, hg', hnil, htrim⟩
  · intro h
    obtain ⟨gap, word, gap', he, hg, hw, hg', hne, htrim⟩ := h
    refine ⟨gap, word, gap' ++ hint.toList, he, hg, hw, by simp [hne], ?_⟩
    rw [trim, Text.trimLeft_append hg', trimLeft_eq_self htrim.1, trimRight_eq_self htrim.2]

/-- Looking through a trimmed line finds the first place where a hint stands. -/
theorem hintIn?_eq_some_iff (hs : s.getLast?.any isBlank = false) :
    hintIn? s = some hint ↔
      ∃ i, IsHint hint (s.drop i) ∧ ∀ j < i, ∀ other, ¬ IsHint other (s.drop j) := by
  induction s with
  | nil =>
      have hno : ∀ other i, ¬ IsHint other (([] : List Char).drop i) := by
        intro other i h
        obtain ⟨gap, word, gap', he, -⟩ := h
        simp at he
      constructor
      · intro h
        contradiction
      · intro h
        obtain ⟨i, hi, -⟩ := h
        exact absurd hi (hno hint i)
  | cons c s ih =>
      have htail : s.getLast?.any isBlank = false := by
        cases s with
        | nil => rfl
        | cons d s => exact getLast?_of_append (s := [c]) (List.cons_ne_nil d s) hs
      rw [hintIn?, Option.or_eq_some_iff, hintHere?_eq_some_iff hs, ih htail]
      constructor
      · intro h
        cases h with
        | inl hhere => exact ⟨0, hhere, fun j hj => absurd hj (Nat.not_lt_zero j)⟩
        | inr h =>
            obtain ⟨hnone, i, hi, hbefore⟩ := h
            refine ⟨i + 1, hi, fun j hj other hother => ?_⟩
            cases j with
            | zero =>
                rw [(hintHere?_eq_some_iff hs).2 hother] at hnone
                contradiction
            | succ j => exact hbefore j (Nat.lt_of_succ_lt_succ hj) other hother
      · intro h
        obtain ⟨i, hi, hbefore⟩ := h
        cases i with
        | zero => exact .inl hi
        | succ i =>
            refine .inr ⟨?_, i, hi, fun j hj => hbefore (j + 1) (Nat.succ_lt_succ hj)⟩
            rw [Option.eq_none_iff_forall_ne_some]
            intro other hother
            exact hbefore 0 (Nat.succ_pos i) other ((hintHere?_eq_some_iff hs).1 hother)

/-- The hint of a line is the first that stands on it. -/
theorem hint?_eq_some_iff : hint? line = some hint ↔ FirstHint hint line :=
  hintIn?_eq_some_iff (getLast?_trim line)

theorem hint?_eq_none_iff : hint? line = none ↔ ∀ hint, ¬ FirstHint hint line := by
  simp only [Option.eq_none_iff_forall_ne_some, ne_eq, hint?_eq_some_iff]

theorem IsHint.isTrimmed (h : IsHint hint s) : hint ≠ "" ∧ IsTrimmed hint.toList := by
  obtain ⟨-, -, -, -, -, -, -, hne, htrim⟩ := h
  exact ⟨fun he => hne (by rw [he]; rfl), htrim⟩

/-- A hint is a part of its line. -/
theorem FirstHint.isInfix_line (h : FirstHint hint line) : hint.toList <:+: line := by
  obtain ⟨i, ⟨gap, word, gap', he, -⟩, -⟩ := h
  have hdrop : hint.toList <:+ (trim line).drop i := by
    rw [he]
    exact ⟨'#' :: (gap ++ (word ++ ':' :: gap')), by simp⟩
  obtain ⟨before, -, hbefore⟩ := exists_append_trimLeft line
  obtain ⟨behind, -, hbehind⟩ := exists_trimRight_append (trimLeft line)
  have htrim : trim line <:+: line := ⟨before, behind, by
    rw [List.append_assoc, trim, ← hbehind, ← hbefore]⟩
  exact (hdrop.trans (List.drop_suffix i _)).isInfix.trans htrim

end Line

/-! ## Hints above a line -/

variable {window window' : Int} {above : List Line} {hint : String}

/-- Above a line stands this hint: in the run of comments directly above, among
the nearest `window` lines, and on no line nearer than its own stands any. -/
def HintAbove (window : Int) (above : List Line) (hint : String) : Prop :=
  ∃ near comment far, above = near ++ comment :: far ∧ (near.length : Int) < window ∧
    (∀ l ∈ near ++ [comment], isComment l = true) ∧ FirstHint hint comment ∧
    ∀ l ∈ near, ∀ other, ¬ FirstHint other l

/-- A wider window does not lose a hint. -/
theorem HintAbove.mono (h : HintAbove window above hint) (hw : window ≤ window') :
    HintAbove window' above hint := by
  obtain ⟨near, comment, far, ha, hlen, hrest⟩ := h
  exact ⟨near, comment, far, ha, Int.lt_of_lt_of_le hlen hw, hrest⟩

/-- A window of no lines holds no hint. -/
theorem not_hintAbove_of_nonpos (hw : window ≤ 0) : ¬ HintAbove window above hint := by
  intro h
  obtain ⟨near, comment, far, -, hlen, -⟩ := h
  omega

/-- A hint above a line is a trimmed part of one of the comments directly
above. -/
theorem HintAbove.exists_comment (h : HintAbove window above hint) :
    hint ≠ "" ∧ IsTrimmed hint.toList ∧
      ∃ comment ∈ above.takeWhile isComment, hint.toList <:+: comment := by
  obtain ⟨near, comment, far, ha, -, hcomments, hfirst, -⟩ := h
  obtain ⟨i, hi, -⟩ := id hfirst
  obtain ⟨hne, htrim⟩ := hi.isTrimmed
  refine ⟨hne, htrim, comment, ?_, hfirst.isInfix_line⟩
  rw [ha, List.append_cons, List.takeWhile_append_of_pos hcomments]
  simp

/-- The hint of a declaration is the one that stands above it. -/
theorem Situated.hint?_eq_some_iff {s : Situated} :
    s.hint? window = some hint ↔ HintAbove window s.above hint := by
  rw [Situated.hint?, List.findSome?_eq_some_iff]
  simp only [Line.hint?_eq_some_iff, Line.hint?_eq_none_iff]
  constructor
  · intro h
    obtain ⟨near, comment, rest, hrun, hfirst, hno⟩ := h
    have hprefix : near ++ comment :: rest <+: s.above.take window.toNat := by
      rw [← hrun]
      exact List.takeWhile_prefix _
    obtain ⟨far, hfar⟩ := hprefix.trans (List.take_prefix _ _)
    have hlen := hprefix.length_le
    rw [List.length_append, List.length_cons, List.length_take] at hlen
    refine ⟨near, comment, rest ++ far, by rw [← hfar]; simp, by omega, ?_, hfirst, hno⟩
    intro l hl
    refine List.mem_takeWhile_imp (l := s.above.take window.toNat) ?_
    rw [hrun]
    rw [List.append_cons]
    exact List.mem_append_left rest hl
  · intro h
    obtain ⟨near, comment, far, ha, hlen, hcomments, hfirst, hno⟩ := h
    refine ⟨near, comment, (far.take (window.toNat - (near ++ [comment]).length)).takeWhile isComment,
      ?_, hfirst, hno⟩
    have htake : s.above.take window.toNat =
        (near ++ [comment]) ++ far.take (window.toNat - (near ++ [comment]).length) := by
      rw [ha, List.append_cons, List.take_append, List.take_of_length_le]
      rw [List.length_append, List.length_singleton]
      omega
    rw [htake, List.takeWhile_append_of_pos hcomments]
    simp

/-- A window as wide as all lines above leaves none of them out. -/
theorem Situated.hint?_of_length_le {s : Situated} (h : (s.above.length : Int) ≤ window) :
    s.hint? window = (s.above.takeWhile isComment).findSome? Line.hint? := by
  have hlen : s.above.length ≤ window.toNat := by omega
  rw [Situated.hint?, List.take_of_length_le hlen]

/-! ## Hints of records -/

/-- A target without its usage hint. -/
def Target.unhinted (t : Target) : Target := { t with usageHint := none }

/-- The lines that declare targets, in order, with what stands above them. -/
def declarations (ls : List Line) : List Situated :=
  (situate [] ls).filterMap fun s => (declaration? s.line).map fun _ => s

/-- The record of a line, with the hint that stands above it. -/
structure Target.RecordedFrom (window : Int) (s : Situated) (t : Target) : Prop where
  declared : declaration? s.line = some (t.name, t.dependencies)
  hinted : ∀ hint, t.usageHint = some hint ↔ HintAbove window s.above hint

theorem Target.recordedFrom_of_ofLine? {ls : List Line} {s : Situated} {t : Target}
    (h : Target.ofLine? window ls s = some t) : Target.RecordedFrom window s t := by
  obtain ⟨d, hd, ht⟩ := Option.map_eq_some_iff.1 h
  rw [← ht]
  exact { declared := hd, hinted := fun _ => Situated.hint?_eq_some_iff }

/-- A line has a record exactly if it declares a target. -/
theorem Target.rel_recordedFrom (window : Int) (ls : List Line) (s : Situated) :
    Option.Rel (Target.RecordedFrom window) ((declaration? s.line).map fun _ => s)
      (Target.ofLine? window ls s) := by
  cases ht : Target.ofLine? window ls s with
  | none =>
      have hd : declaration? s.line = none := Option.map_eq_none_iff.1 ht
      rw [hd]
      exact .none
  | some t =>
      have hr := Target.recordedFrom_of_ofLine? ht
      rw [hr.declared]
      exact .some hr

/-- But for its hint, a record does not depend on the window. -/
theorem Target.map_unhinted_ofLine? (window window' : Int) (ls : List Line) (s : Situated) :
    (Target.ofLine? window ls s).map Target.unhinted =
      (Target.ofLine? window' ls s).map Target.unhinted := by
  unfold Target.ofLine?
  cases declaration? s.line with
  | none => rfl
  | some d => rfl

/-- A record keeps its hint in a wider window. -/
theorem Target.usageHint_ofLine?_mono (h : window ≤ window') (ls : List Line) (s : Situated) :
    Option.Rel (fun t t' : Target => ∀ hint, t.usageHint = some hint → t'.usageHint = some hint)
      (Target.ofLine? window ls s) (Target.ofLine? window' ls s) := by
  unfold Target.ofLine?
  cases declaration? s.line with
  | none => exact .none
  | some d =>
      refine .some fun hint hh => ?_
      exact Situated.hint?_eq_some_iff.2 ((Situated.hint?_eq_some_iff.1 hh).mono h)

theorem length_above_of_mem_situate {above ls : List Line} {s : Situated}
    (h : s ∈ situate above ls) : s.above.length ≤ above.length + ls.length := by
  induction ls generalizing above with
  | nil => exact absurd h List.not_mem_nil
  | cons l ls ih =>
      rw [List.length_cons]
      cases List.mem_cons.1 h with
      | inl hs =>
          rw [hs]
          exact Nat.le_add_right _ _
      | inr hs =>
          have hlen := ih hs
          rw [List.length_cons] at hlen
          omega

namespace Catalog

theorem forall₂_recordedFrom (window : Int) (path : Path) (ls : List Line) :
    List.Forall₂ (Target.RecordedFrom window) (declarations ls)
      (ofLines window path ls).targets := by
  refine List.rel_filterMap (R := Eq) ?_ (List.forall₂_same.2 fun _ _ => rfl)
  intro s s' hs
  rw [← hs]
  exact Target.rel_recordedFrom window ls s

theorem map_unhinted_targets (window window' : Int) (path : Path) (ls : List Line) :
    (ofLines window path ls).targets.map Target.unhinted =
      (ofLines window' path ls).targets.map Target.unhinted := by
  simp only [ofLines, List.map_filterMap, Target.map_unhinted_ofLine? window window']

theorem forall₂_usageHint (h : window ≤ window') (path : Path) (ls : List Line) :
    List.Forall₂ (fun t t' => ∀ hint, t.usageHint = some hint → t'.usageHint = some hint)
      (ofLines window path ls).targets (ofLines window' path ls).targets := by
  refine List.rel_filterMap (R := Eq) ?_ (List.forall₂_same.2 fun _ _ => rfl)
  intro s s' hs
  rw [← hs]
  exact Target.usageHint_ofLine?_mono h ls s

/-- Windows that reach over all lines make no difference. -/
theorem ofLines_of_length_le {ls : List Line} (h : (ls.length : Int) ≤ window)
    (h' : (ls.length : Int) ≤ window') (path : Path) :
    ofLines window path ls = ofLines window' path ls := by
  have hrecord : ∀ s ∈ situate [] ls,
      Target.ofLine? window ls s = Target.ofLine? window' ls s := by
    intro s hs
    have hlen := length_above_of_mem_situate hs
    rw [List.length_nil, Nat.zero_add] at hlen
    rw [Target.ofLine?, Target.ofLine?, Situated.hint?_of_length_le (by omega),
      Situated.hint?_of_length_le (by omega)]
  rw [ofLines, ofLines, List.filterMap_congr hrecord]

/-- **Hints within a window**: two catalogs of one text that are read with a
narrower and a wider window differ in nothing but usage hints.  A hint that the
narrower window shows is shown by the wider one.  There is no hint in a window of
no lines, and nothing changes beyond a window of as many lines as the text has.
Record by record, the hint is the nearest one above the declaration in the run
of comments and in the window: a part of a comment, not empty, without blanks
around it. -/
theorem hints_within (path : Path) (text : String) (h : window ≤ window') :
    let ls := lines text.toList
    let c := ofText window path text
    let c' := ofText window' path text
    (c.path = c'.path ∧ c.assigned = c'.assigned ∧
      c.targets.map Target.unhinted = c'.targets.map Target.unhinted) ∧
    List.Forall₂ (fun t t' => ∀ hint, t.usageHint = some hint → t'.usageHint = some hint)
      c.targets c'.targets ∧
    (window ≤ 0 → ∀ t ∈ c.targets, t.usageHint = none) ∧
    ((ls.length : Int) ≤ window → c = c') ∧
    List.Forall₂ (fun s t => Target.RecordedFrom window s t ∧
      ∀ hint, t.usageHint = some hint → hint ≠ "" ∧ IsTrimmed hint.toList ∧
        ∃ comment ∈ s.above.takeWhile isComment, hint.toList <:+: comment)
      (declarations ls) c.targets := by
  intro ls c c'
  have hrecords : List.Forall₂ (Target.RecordedFrom window) (declarations ls) c.targets :=
    forall₂_recordedFrom window path ls
  refine ⟨⟨rfl, rfl, map_unhinted_targets window window' path ls⟩,
    forall₂_usageHint h path ls, fun hw t ht => ?_, fun hlen => ?_, ?_⟩
  · obtain ⟨s, -, hs⟩ := List.mem_filterMap.1 ht
    rw [Option.eq_none_iff_forall_ne_some]
    intro hint hh
    exact not_hintAbove_of_nonpos hw (((Target.recordedFrom_of_ofLine? hs).hinted hint).1 hh)
  · exact ofLines_of_length_le hlen (Int.le_trans hlen h) path
  · exact hrecords.imp fun s t hr =>
      ⟨hr, fun hint hh => ((hr.hinted hint).1 hh).exists_comment⟩

/-- A hint on the second line above is out of reach of a window of one line, and
the hint that such a window shows stays. -/
theorem hints_within_of_two_hints :
    let path : Path := ⟨.relative, ["Makefile"]⟩
    let text := "#Args:x\nc:\n# see\n#\tuSage: -n # b\n# more\na: b\n"
    let c := ofText 1 path text
    let c' := ofText 1000000 path text
    (1 : Int) ≤ 1000000 ∧ c.targets.map (·.usageHint) = [some "x", none] ∧
      c'.targets.map (·.usageHint) = [some "x", some "-n # b"] ∧
      c.targets.map Target.unhinted = c'.targets.map Target.unhinted ∧
      ∃ s ∈ declarations (lines text.toList), declaration? s.line = some ("c", []) ∧
        HintAbove 1 s.above "x" := by
  intro path text c c'
  have hw : (1 : Int) ≤ 1000000 := by decide
  obtain ⟨⟨-, -, hunhinted⟩, -, -, -, hrecords⟩ := hints_within path text hw
  obtain ⟨t, ts, ht⟩ := List.exists_cons_of_ne_nil (l := c.targets) (by decide +kernel)
  have hhead : c.targets.head?.map (fun t => (t.name, t.dependencies, t.usageHint)) =
      some ("c", [], some "x") := by decide +kernel
  rw [ht] at hhead
  obtain ⟨hname, hdeps, hhint⟩ : t.name = "c" ∧ t.dependencies = [] ∧ t.usageHint = some "x" := by
    simpa using hhead
  change List.Forall₂ _ _ c.targets at hrecords
  rw [ht, List.forall₂_cons_right_iff] at hrecords
  obtain ⟨s, rest, ⟨hr, -⟩, -, hs⟩ := hrecords
  refine ⟨hw, by decide +kernel, by decide +kernel, hunhinted, s, ?_, ?_, (hr.hinted "x").1 hhint⟩
  · rw [hs]
    exact List.mem_cons_self
  · rw [hr.declared, hname, hdeps]

end Catalog

end MakeTools
