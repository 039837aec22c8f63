import MakeTools.Proofs.Listing
import MakeTools.Proofs.Variables

/-!
# MakeTools.Proofs.Settable

Variables of a tool that a call can set.

The name of a variable is a word, as a recipe mentions it.  A command takes
words for names of variables unless they begin with a digit
(`anchored_isVariableName_of_isWord`), and a call passes on every argument under
its own name but the raw arguments (`Server.recorded_call_singleton`).  So a
call that gives a variable of a listed tool a safe value sets it, if its name is
neither `args` nor begins with a digit.  A variable of such a name is listed all
the same, and cannot be set.
-/

namespace MakeTools

open Text Line Command Server

/-! ## Names -/

/-- A command takes a word for the name of a variable if it does not begin with
a digit. -/
theorem anchored_isVariableName_of_isWord {name : String} (hw : IsWord name)
    (hd : name.toList.head?.any Char.isDigit = false) :
    anchored isVariableName name.toList = true := by
  obtain ⟨hne, hall⟩ := hw
  obtain ⟨c, s, hn⟩ := List.exists_cons_of_ne_nil hne
  rw [hn] at hall hd ⊢
  have hc : isNameStart c = true :=
    isNameStart_of_isWordChar (hall c List.mem_cons_self) (by simpa using hd)
  have hs : s.all isWordChar = true :=
    List.all_eq_true.2 fun d hd => hall d (List.mem_cons_of_mem c hd)
  rw [anchored, isVariableName, hc, hs, Bool.and_self, Bool.true_or]

/-! ## One argument -/

variable {name value : String}

/-- An argument of another name leaves the raw arguments empty. -/
theorem givenRawArgs_singleton (h : name ≠ rawArgsName) (value : Option String) :
    givenRawArgs [(name, value)] = "" := by
  have hk : (rawArgsName == name) = false := beq_eq_false_iff_ne.2 h.symm
  rw [givenRawArgs, List.lookup_cons, hk, List.lookup_nil]
  rfl

/-- An argument alone can be given to a target that may be called if a command
takes its name and its value. -/
theorem runnable_singleton {cfg : Config} {disk : Disk} {target : String}
    (hd : cfg.Declares disk target) (ha : cfg.isAllowed target = true)
    (hn : anchored isVariableName name.toList = true) (hr : name ≠ rawArgsName)
    (hv : ∀ c ∈ value.toList, isBlocked c = false) :
    Runnable cfg disk (cfg.toolPrefix ++ target) [(name, some value)] target where
  named := rfl
  declared := hd
  allowed := Config.isAllowed_iff.1 ha
  settings := by
    intro key given hm _ _
    obtain ⟨rfl, hg⟩ := Prod.mk.inj (List.mem_singleton.1 hm)
    obtain rfl := Option.some.inj hg
    exact ⟨hn, hv⟩
  rawArgs := by simp [givenRawArgs_singleton hr]
  closed := by
    rw [givenRawArgs_singleton hr]
    rfl

/-- The command that a dry server records for such a call has this one
assignment and no more words. -/
theorem Server.recorded_call_singleton {s : Server} {disk : Disk} {target : String}
    {succeeds : Bool} {output : String} (he : s.config.executor = .dry succeeds output)
    (hd : s.config.Declares disk target) (ha : s.config.isAllowed target = true)
    (hn : anchored isVariableName name.toList = true) (hr : name ≠ rawArgsName) (hne : value ≠ "")
    (hv : ∀ c ∈ value.toList, isBlocked c = false) :
    (s.call disk (s.config.toolPrefix ++ target) [(name, .text value)]).1.recorded =
      s.recorded ++
        [["make", "-f", toString s.config.makefile, target, name ++ "=" ++ value]] := by
  obtain ⟨words, hw, hc⟩ := recorded_call_of_runnable he (runnable_singleton hd ha hn hr hv)
  have hset : givenSettings [(name, some value)] = [(name, value)] := by
    rw [givenSettings, if_neg (by simp [hr, hne]), givenSettings]
  have hnil : Shell.words "" = some [] := by decide
  rw [givenRawArgs_singleton hr] at hw
  obtain rfl : words = [] := Option.some.inj (hw.symm.trans hnil)
  rw [givenCommand, hset] at hc
  exact hc

/-! ## Variables of listed tools -/

/-- A tool that is listed runs a declared and allowed target: the first record
of its name. -/
theorem Server.Config.exists_target_of_mem_tools {cfg : Config} {disk : Disk} {c : Catalog}
    (hc : cfg.load disk = .ok c) {tool : Tool} (h : tool ∈ cfg.tools c) :
    ∃ t ∈ c.targets, tool = .ofTarget cfg.toolPrefix t ∧ cfg.Declares disk t.name ∧
      cfg.isAllowed t.name = true := by
  obtain ⟨t, ht, rfl⟩ := List.mem_map.1 h
  obtain ⟨-, before, after, happ, -⟩ := Config.exists_eq_append_of_mem_offeredFrom ht
  have hn : t.name ∈ c.names.filter cfg.isAllowed := by
    rw [← map_name_offered]
    exact List.mem_map_of_mem ht
  obtain ⟨hm, ha⟩ := List.mem_filter.1 hn
  exact ⟨t, by rw [happ]; simp, rfl, ⟨c, hc, hm⟩, ha⟩

/-- **Variables can be set**: let the Makefile have this text.  A call of a tool
that is listed which gives one variable of its target a value without blocked
characters runs the target with this one assignment, if the variable is not
called `args` and its name does not begin with a digit. -/
theorem recorded_call_of_mem_mentions {s : Server} {disk : Disk} {text : String}
    {succeeds : Bool} {output : String} (he : s.config.executor = .dry succeeds output)
    (ht : Catalog.readText disk s.config.makefile = .ok text) :
    ∃ tools, (s.list disk).2.answer = .ok tools ∧ ∀ tool ∈ tools,
      ∃ t ∈ (Catalog.ofText s.config.window s.config.makefile text).targets,
        tool = .ofTarget s.config.toolPrefix t ∧
        ∀ v ∈ t.mentions, v.name ≠ rawArgsName → v.name.toList.head?.any Char.isDigit = false →
          ∀ value, value ≠ "" → (∀ c ∈ value.toList, isBlocked c = false) →
            (s.call disk tool.name [(v.name, .text value)]).1.recorded = s.recorded ++
              [["make", "-f", toString s.config.makefile, t.name, v.name ++ "=" ++ value]] := by
  have hl : s.config.load disk = .ok (.ofText s.config.window s.config.makefile text) :=
    Catalog.load_eq_ok_iff.2 ⟨text, ht, rfl⟩
  refine ⟨s.config.tools (.ofText s.config.window s.config.makefile text), ?_,
    fun tool htool => ?_⟩
  · simp only [list, Config.refresh_eq_ok_iff.2 (.inl hl), Except.map]
  · obtain ⟨t, hm, rfl, hd, ha⟩ := Config.exists_target_of_mem_tools hl htool
    refine ⟨t, hm, rfl, fun v hv hr hdigit value hne hsafe => ?_⟩
    have hn := anchored_isVariableName_of_isWord (Catalog.isWord_of_mem_mentions hm hv) hdigit
    exact recorded_call_singleton he hd ha hn hr hne hsafe

/-- A variable that has a default, and one that is only tested for, can be set
to a text with blanks, signs and quotes. -/
theorem recorded_call_of_tested_variable :
    Catalog.readText (Session.beside "E ?= a\nrun:\nifdef _D\n\t$(E)\n" []).disk
        ⟨.relative, ["Makefile"]⟩ = .ok "E ?= a\nrun:\nifdef _D\n\t$(E)\n" ∧
    ∀ name ∈ ["E", "_D"],
      ((Session.beside "E ?= a\nrun:\nifdef _D\n\t$(E)\n" []).server.call
        (Session.beside "E ?= a\nrun:\nifdef _D\n\t$(E)\n" []).disk "make_run"
        [(name, .text "-x = 'y'")]).1.recorded =
          [["make", "-f", "Makefile", "run", name ++ "=" ++ "-x = 'y'"]] := by
  have ht : Catalog.readText (Session.beside "E ?= a\nrun:\nifdef _D\n\t$(E)\n" []).disk
      ⟨.relative, ["Makefile"]⟩ = .ok "E ?= a\nrun:\nifdef _D\n\t$(E)\n" := by decide +kernel
  have htargets : (Catalog.ofText 4 ⟨.relative, ["Makefile"]⟩
      "E ?= a\nrun:\nifdef _D\n\t$(E)\n").targets =
      [{ name := "run"
         description := "Execute make target: run"
         mentions := [⟨"E", some "a", false, none⟩, ⟨"_D", none, false, none⟩] }] := by
    decide +kernel
  obtain ⟨tools, hlist, htools⟩ := recorded_call_of_mem_mentions
    (s := (Session.beside "E ?= a\nrun:\nifdef _D\n\t$(E)\n" []).server) rfl ht
  have hrun : "make_run" ∈ tools.map (·.name) := by
    have hnames : ((Session.beside "E ?= a\nrun:\nifdef _D\n\t$(E)\n" []).server.list
        (Session.beside "E ?= a\nrun:\nifdef _D\n\t$(E)\n" []).disk).2.answer.map
          (fun ts => ts.map (·.name)) = .ok ["make_run"] := by decide +kernel
    rw [hlist] at hnames
    simp [Except.ok.inj hnames]
  obtain ⟨tool, htool, hname⟩ := List.mem_map.1 hrun
  obtain ⟨t, hm, -, hset⟩ := htools tool htool
  obtain rfl := List.mem_singleton.1 (htargets ▸ hm)
  rw [hname] at hset
  refine ⟨ht, fun name hn => ?_⟩
  have hsafe : ∀ c ∈ "-x = 'y'".toList, isBlocked c = false :=
    isDangerous_eq_false_iff.1 (by decide)
  rcases List.mem_pair.1 hn with rfl | rfl
  · exact hset ⟨"E", some "a", false, none⟩ (by simp) (by decide) (by decide) _ (by decide) hsafe
  · exact hset ⟨"_D", none, false, none⟩ (by simp) (by decide) (by decide) _ (by decide) hsafe

/-- A variable that has the name of the raw arguments is listed as required, and
its value becomes a word of the command; one whose name is a digit is listed as
required, and refused. -/
theorem exists_variable_not_settable :
    ((Catalog.ofText 4 ⟨.relative, ["Makefile"]⟩ "build:\n\techo $(args)\n").targets =
        [{ name := "build"
           description := "Execute make target: build"
           mentions := [⟨"args", none, true, none⟩] }] ∧
      ((Session.beside "build:\n\techo $(args)\n" []).server.list
        (Session.beside "build:\n\techo $(args)\n" []).disk).2.answer.map
          (fun tools => tools.map (·.name)) = .ok ["make_build"] ∧
      ((Session.beside "build:\n\techo $(args)\n" []).server.call
        (Session.beside "build:\n\techo $(args)\n" []).disk "make_build"
          [("args", .text "x")]).1.recorded = [["make", "-f", "Makefile", "build", "x"]]) ∧
    ((Catalog.ofText 4 ⟨.relative, ["Makefile"]⟩ "build:\n\techo $(1)\n").targets =
        [{ name := "build"
           description := "Execute make target: build"
           mentions := [⟨"1", none, true, none⟩] }] ∧
      ((Session.beside "build:\n\techo $(1)\n" []).server.list
        (Session.beside "build:\n\techo $(1)\n" []).disk).2.answer.map
          (fun tools => tools.map (·.name)) = .ok ["make_build"] ∧
      ((Session.beside "build:\n\techo $(1)\n" []).server.call
        (Session.beside "build:\n\techo $(1)\n" []).disk "make_build"
          [("1", .text "x")]).1.recorded = []) := by
  decide +kernel

end MakeTools
