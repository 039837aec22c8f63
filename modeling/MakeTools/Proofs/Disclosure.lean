import MakeTools.Proofs.Lexing
import MakeTools.Proofs.Listing
import MakeTools.Proofs.Loading

/-!
# MakeTools.Proofs.Disclosure

What a server tells of the targets that its allowlist hides.

The tools of a catalog depend on the records of allowed names alone
(`tools_congr`), so a listing tells nothing of hidden targets.  Neither does the
refusal of a hidden target, which names the allowlist.  The refusal of an
unknown target names every target that the Makefile declares, hidden or not.
The names can be read back from it (`intercalate_inj_of_isTargetName`), so that
two Makefiles get the same refusal only if they declare the same names in the
same order (`answers_agree_iff`).  One pair is left: a Makefile without targets
is said to have `none`, which is also a name.
-/

namespace MakeTools

open Command Server

/-! ## Listing -/

namespace Server.Config

variable {cfg : Config}

/-- The records of allowed names. -/
def visible (cfg : Config) (c : Catalog) : List Target :=
  c.targets.filter fun t => cfg.isAllowed t.name

/-- A pass over declarations offers the same if the hidden ones are left out,
whichever hidden names were seen before. -/
theorem offeredFrom_filter_isAllowed {seen seen' : List String} (ts : List Target)
    (h : ∀ n, cfg.isAllowed n = true → (n ∈ seen ↔ n ∈ seen')) :
    cfg.offeredFrom seen' (ts.filter fun t => cfg.isAllowed t.name) = cfg.offeredFrom seen ts := by
  induction ts generalizing seen seen' with
  | nil => rfl
  | cons t ts ih =>
      cases ha : cfg.isAllowed t.name with
      | true =>
          have hseen : seen'.contains t.name = seen.contains t.name := by
            rw [Bool.eq_iff_iff, List.contains_iff_mem, List.contains_iff_mem, h _ ha]
          have hcons : ∀ n, cfg.isAllowed n = true → (n ∈ t.name :: seen ↔ n ∈ t.name :: seen') :=
            fun n hn => by rw [List.mem_cons, List.mem_cons, h n hn]
          rw [List.filter_cons_of_pos (by exact ha), offeredFrom, offeredFrom, hseen, ih h, ih hcons]
      | false =>
          -- the pass may remember the hidden name, but does not meet it again
          have hcons : ∀ n, cfg.isAllowed n = true → (n ∈ t.name :: seen ↔ n ∈ seen') := by
            intro n hn
            have hne : n ≠ t.name := by
              rintro rfl
              rw [hn] at ha
              contradiction
            rw [List.mem_cons, or_iff_right hne, h n hn]
          rw [List.filter_cons_of_neg (by rw [ha]; decide), offeredFrom, ha]
          split
          · exact ih h
          · exact ih hcons

/-- Hidden declarations make no difference to what is offered. -/
theorem offered_eq_offeredFrom_visible (cfg : Config) (c : Catalog) :
    cfg.offered c = cfg.offeredFrom [] (cfg.visible c) :=
  (offeredFrom_filter_isAllowed c.targets fun _ _ => Iff.rfl).symm

theorem tools_congr {c c' : Catalog} (h : cfg.visible c = cfg.visible c') :
    cfg.tools c = cfg.tools c' := by
  rw [tools, tools, offered_eq_offeredFrom_visible, offered_eq_offeredFrom_visible, h]

end Server.Config

/-! ## Names in a message -/

theorem space_not_mem_of_isTargetName {name : List Char} (h : isTargetName name = true) :
    ' ' ∉ name := by
  intro hm
  exact absurd ((Line.isTargetName_iff.1 h).2 _ hm) (by decide)

theorem ne_empty_of_isTargetName {name : String} (h : isTargetName name.toList = true) :
    name ≠ "" := by
  rintro rfl
  contradiction

/-- Target names can be read back from a list of them, unless there are none. -/
theorem intercalate_inj_of_isTargetName {names names' : List String}
    (h : ∀ n ∈ names, isTargetName n.toList = true)
    (h' : ∀ n ∈ names', isTargetName n.toList = true) (hne : names ≠ []) (hne' : names' ≠ []) :
    ", ".intercalate names = ", ".intercalate names' ↔ names = names' :=
  Text.intercalate_comma_inj (fun n hn => space_not_mem_of_isTargetName (h n hn))
    (fun n hn => space_not_mem_of_isTargetName (h' n hn)) hne hne'

namespace Catalog

variable {c c' : Catalog}

/-- The names as the refusal of an unknown target shows them: `none` stands
there if there are no names. -/
def shown (c : Catalog) : List String := if c.names = [] then ["none"] else c.names

theorem shown_ne_nil (c : Catalog) : c.shown ≠ [] := by
  unfold shown
  split
  · exact List.cons_ne_nil _ _
  · assumption

theorem isTargetName_of_mem_shown (h : ∀ n ∈ c.names, isTargetName n.toList = true) :
    ∀ n ∈ c.shown, isTargetName n.toList = true := by
  unfold shown
  split
  · intro n hn
    rw [List.mem_singleton.1 hn]
    decide
  · exact h

theorem intercalate_shown (h : ∀ n ∈ c.names, isTargetName n.toList = true) :
    ", ".intercalate c.shown =
      if (", ".intercalate c.names).isEmpty then "none" else ", ".intercalate c.names := by
  rw [shown]
  cases hn : c.names with
  | nil => simp
  | cons name names =>
      have hname : name ≠ "" := ne_empty_of_isTargetName (h name (by simp [hn]))
      have hlisted : ", ".intercalate (name :: names) ≠ "" := by
        cases names <;> simp [hname]
      rw [if_neg (List.cons_ne_nil _ _), if_neg]
      rw [String.isEmpty_iff]
      exact hlisted

/-- The refusal of an unknown target lists every name of the catalog. -/
theorem message_unknownTarget (h : ∀ n ∈ c.names, isTargetName n.toList = true)
    (target : String) :
    (Error.unknownTarget target (some c.names)).message =
      "Target '" ++ target ++ "' not found in Makefile. Available targets: " ++
        ", ".intercalate c.shown := by
  rw [intercalate_shown h]
  rfl

/-- Two catalogs give the same refusal of a target exactly if they show the same
names. -/
theorem message_unknownTarget_inj (h : ∀ n ∈ c.names, isTargetName n.toList = true)
    (h' : ∀ n ∈ c'.names, isTargetName n.toList = true) (target : String) :
    (Error.unknownTarget target (some c.names)).message =
        (Error.unknownTarget target (some c'.names)).message ↔
      c.shown = c'.shown := by
  rw [message_unknownTarget h, message_unknownTarget h', String.append_right_inj]
  exact intercalate_inj_of_isTargetName (isTargetName_of_mem_shown h)
    (isTargetName_of_mem_shown h') c.shown_ne_nil c'.shown_ne_nil

end Catalog

/-! ## Calls -/

namespace Server

variable {s : Server} {disk : Disk} {tool target : String} {arguments : List (String × Value)}
  {c : Catalog}

/-- A name without the shared beginning is refused for what it is. -/
theorem answer_call_of_targetOf?_eq_none (h : s.config.targetOf? tool = none) :
    (s.call disk tool arguments).2.answer =
      "Error: " ++ (Rejection.unknownTool tool).message := by
  have ha : s.config.accept disk tool arguments = .error (.rejected (.unknownTool tool)) := by
    simp only [Config.accept, h]
  exact (call_of_accept_eq_error ha).2.2

theorem answer_call_of_check_eq_error {r : Rejection} (hl : s.config.load disk = .ok c)
    (ht : s.config.targetOf? tool = some target)
    (h : s.config.check c target arguments = .error (.rejected r)) :
    (s.call disk tool arguments).2.answer = "Error: " ++ r.message := by
  have hc : s.config.refresh disk = .ok c := Config.refresh_eq_ok_iff.2 (.inl hl)
  have ha : s.config.accept disk tool arguments = .error (.rejected r) := by
    simp only [Config.accept, ht, hc, h]
  exact (call_of_accept_eq_error ha).2.2

/-- A target that is not declared is refused with the names of those that
are. -/
theorem answer_call_of_not_mem (hl : s.config.load disk = .ok c)
    (ht : s.config.targetOf? tool = some target) (hn : target ∉ c.names) :
    (s.call disk tool arguments).2.answer =
      "Error: " ++ (Catalog.Error.unknownTarget target (some c.names)).message := by
  have hnone : (c.find? target).isNone = true := by
    rw [Option.isNone_iff_eq_none, ← Option.not_isSome_iff_eq_none, Catalog.isSome_find?]
    exact hn
  have hcheck : s.config.check c target arguments =
      .error (.rejected (.unknownTarget target c.names)) := by
    simp only [Config.check, hnone, if_true]
  exact answer_call_of_check_eq_error hl ht hcheck

/-- A declared target that is hidden is refused with the allowlist. -/
theorem answer_call_of_isAllowed_eq_false (hl : s.config.load disk = .ok c)
    (ht : s.config.targetOf? tool = some target) (hn : target ∈ c.names)
    (ha : s.config.isAllowed target = false) :
    (s.call disk tool arguments).2.answer =
      "Error: " ++ (Rejection.notAllowed target s.config.allowed).message := by
  have hsome : (c.find? target).isNone = false := by
    rw [← Option.not_isSome, Catalog.isSome_find?.2 hn, Bool.not_true]
  have hcheck : s.config.check c target arguments =
      .error (.rejected (.notAllowed target s.config.allowed)) := by
    simp only [Config.check, hsome, ha, Bool.false_eq_true, if_false, Bool.not_false, if_true]
  exact answer_call_of_check_eq_error hl ht hcheck

/-- **Hidden targets in answers**: let two servers of the same set-up load two
Makefiles that have the same records of allowed names.  They list the same
tools.  They refuse a name without the shared beginning in the same words, and
also a hidden target that both Makefiles declare.  A target that neither
declares is refused in the same words exactly if the Makefiles show the same
names, hidden ones included. -/
theorem answers_agree_iff {s t : Server} {d e : Disk} {c c' : Catalog}
    (hc : t.config = s.config) (hd : s.config.load d = .ok c) (he : s.config.load e = .ok c')
    (h : s.config.visible c = s.config.visible c') :
    (s.list d).2.answer = (t.list e).2.answer ∧
    ∀ tool arguments,
      (s.config.targetOf? tool = none →
        (s.call d tool arguments).2.answer = (t.call e tool arguments).2.answer) ∧
      ∀ target, s.config.targetOf? tool = some target →
        (target ∈ c.names → target ∈ c'.names → s.config.isAllowed target = false →
          (s.call d tool arguments).2.answer = (t.call e tool arguments).2.answer) ∧
        (target ∉ c.names → target ∉ c'.names →
          ((s.call d tool arguments).2.answer = (t.call e tool arguments).2.answer ↔
            c.shown = c'.shown)) := by
  have he' : t.config.load e = .ok c' := by rw [hc]; exact he
  refine ⟨?_, fun tool arguments => ⟨fun hnone => ?_, fun target ht => ⟨?_, ?_⟩⟩⟩
  · rw [answer_list_of_load hd, answer_list_of_load he', hc, Config.tools_congr h]
  · rw [answer_call_of_targetOf?_eq_none hnone,
      answer_call_of_targetOf?_eq_none (by rw [hc]; exact hnone)]
  · intro hm hm' ha
    rw [answer_call_of_isAllowed_eq_false hd ht hm ha,
      answer_call_of_isAllowed_eq_false he' (by rw [hc]; exact ht) hm' (by rw [hc]; exact ha), hc]
  · intro hn hn'
    rw [answer_call_of_not_mem hd ht hn, answer_call_of_not_mem he' (by rw [hc]; exact ht) hn',
      String.append_right_inj]
    exact Catalog.message_unknownTarget_inj (fun _ => Catalog.isTargetName_of_load hd)
      (fun _ => Catalog.isTargetName_of_load he) target

/-- A hidden target may get another recipe without any sign of it. -/
theorem answers_agree_of_hidden_recipe :
    let d := (Session.beside "build:\ndeploy:\n" []).disk
    let e := (Session.beside "build:\ndeploy:\n\techo $(KEY)\n" []).disk
    let s := (Session.beside "" ["build"]).server
    ∃ c c', s.config.load d = .ok c ∧ s.config.load e = .ok c' ∧ c ≠ c' ∧
      s.config.visible c = s.config.visible c' ∧
      (s.list d).2.answer = (s.list e).2.answer ∧
      (s.call d "make_nope" []).2.answer = (s.call e "make_nope" []).2.answer ∧
      (s.call d "make_deploy" []).2.answer = (s.call e "make_deploy" []).2.answer := by
  intro d e s
  let c := Catalog.ofText 4 ⟨.relative, ["Makefile"]⟩ "build:\ndeploy:\n"
  let c' := Catalog.ofText 4 ⟨.relative, ["Makefile"]⟩ "build:\ndeploy:\n\techo $(KEY)\n"
  have hd : s.config.load d = .ok c := Catalog.load_eq_ok_iff.2 ⟨_, by decide +kernel, rfl⟩
  have he : s.config.load e = .ok c' := Catalog.load_eq_ok_iff.2 ⟨_, by decide +kernel, rfl⟩
  have h : s.config.visible c = s.config.visible c' := by decide +kernel
  obtain ⟨hlist, hcall⟩ := answers_agree_iff (t := s) rfl hd he h
  refine ⟨c, c', hd, he, by decide +kernel, h, hlist, ?_, ?_⟩
  · exact (((hcall "make_nope" []).2 "nope" (by decide)).2 (by decide +kernel)
      (by decide +kernel)).2 (by decide +kernel)
  · exact ((hcall "make_deploy" []).2 "deploy" (by decide)).1 (by decide +kernel)
      (by decide +kernel) (by decide)

/-- The refusal of a target that neither of two Makefiles declares tells hidden
targets apart. -/
theorem exists_hidden_target_disclosed :
    ¬ ∀ (s t : Server) (d e : Disk) (c c' : Catalog), s.config.allowed ≠ [] →
      t.config = s.config → s.config.load d = .ok c → s.config.load e = .ok c' →
      s.config.visible c = s.config.visible c' →
      (s.list d).2.answer = (t.list e).2.answer ∧
      ∀ tool arguments, (∀ target, s.config.targetOf? tool = some target →
          target ∉ c.names ∧ target ∉ c'.names) →
        (s.call d tool arguments).2.answer = (t.call e tool arguments).2.answer := by
  intro h
  let d := (Session.beside "build:\n" []).disk
  let e := (Session.beside "build:\ndeploy:\n" []).disk
  let s := (Session.beside "" ["build"]).server
  let c := Catalog.ofText 4 ⟨.relative, ["Makefile"]⟩ "build:\n"
  let c' := Catalog.ofText 4 ⟨.relative, ["Makefile"]⟩ "build:\ndeploy:\n"
  have hd : s.config.load d = .ok c := Catalog.load_eq_ok_iff.2 ⟨_, by decide +kernel, rfl⟩
  have he : s.config.load e = .ok c' := Catalog.load_eq_ok_iff.2 ⟨_, by decide +kernel, rfl⟩
  obtain ⟨-, hcall⟩ := h s s d e c c' (by decide) rfl hd he (by decide +kernel)
  have hundeclared : ∀ target, s.config.targetOf? "make_nope" = some target →
      target ∉ c.names ∧ target ∉ c'.names := by
    intro target ht
    obtain rfl : "nope" = target := by
      have hnope : s.config.targetOf? "make_nope" = some "nope" := by decide
      exact Option.some.inj (hnope.symm.trans ht)
    decide +kernel
  exact absurd (hcall "make_nope" [] hundeclared) (by decide +kernel)

end Server

end MakeTools
