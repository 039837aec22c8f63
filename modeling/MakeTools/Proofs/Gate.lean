import MakeTools.Proofs.Freshness
import MakeTools.Proofs.Listing

/-!
# MakeTools.Proofs.Gate

The check of arguments that a client makes before it passes a call on.

A client that has listed the tools knows those of the Makefile as it stood
then.  As long as no file and no fault changes, they are the tools that would
be listed now (`UpToDate`): each step keeps this (`upToDate_step`), whether it
lists again or not, and so does a run (`upToDate_run`).  A known tool is made of
the first declaration of its target (`exists_find?_of_find?_tools`), and its
schema asks for the variables that the recipe of this declaration requires.

The client therefore refuses a call whose arguments are texts exactly if the
tool is listed and lacks a required variable, and passes every other call on to
the server, with the same answer as a direct call (`clientCall_agrees`).
-/

namespace MakeTools

open Server

/-! ## Tools -/

namespace Server.Config

variable {cfg : Config} {disk : Disk} {c : Catalog} {tool : String} {t : Tool}

/-- A tool that is found by its name is made of the first declaration of its
target. -/
theorem exists_find?_of_find?_tools (h : (cfg.tools c).find? (·.name == tool) = some t) :
    ∃ u, t = .ofTarget cfg.toolPrefix u ∧ tool = cfg.toolPrefix ++ u.name ∧
      c.find? u.name = some u := by
  obtain ⟨u, hu, rfl⟩ := List.mem_map.1 (List.mem_of_find?_eq_some h)
  have hname := List.find?_some h
  exact ⟨u, rfl, (beq_iff_eq.1 hname).symm, find?_of_mem_offered hu⟩

/-- The Makefile as it stands marks a variable of this name as required in the
first declaration of the target. -/
def Requires (cfg : Config) (disk : Disk) (target name : String) : Prop :=
  ∃ c u v, cfg.load disk = .ok c ∧ c.find? target = some u ∧ v ∈ u.mentions ∧
    v.required = true ∧ v.name = name

instance (cfg : Config) (disk : Disk) (target name : String) :
    Decidable (cfg.Requires disk target name) :=
  decidable_of_iff ((cfg.load disk).toOption.any (fun c => (c.find? target).any fun u =>
      u.mentions.any fun v => v.required && v.name == name) = true) (by
    unfold Requires
    cases cfg.load disk with
    | error e => simp [Except.toOption]
    | ok c => simp [Except.toOption, Option.any_eq_true])

/-- The schema of a tool that is listed asks for the names that the Makefile
marks as required. -/
theorem mem_required_iff_requires (hc : cfg.refresh disk = .ok c)
    (h : (cfg.tools c).find? (·.name == tool) = some t) (name : String) :
    name ∈ t.schema.required ↔
      ∃ target, tool = cfg.toolPrefix ++ target ∧ cfg.Requires disk target name := by
  obtain ⟨u, rfl, rfl, hu⟩ := exists_find?_of_find?_tools h
  have hmem : name ∈ (Tool.ofTarget cfg.toolPrefix u).schema.required ↔
      ∃ v ∈ u.mentions, v.required = true ∧ v.name = name := by
    simp [Tool.ofTarget, Schema.ofTarget, Target.requiredNames, and_assoc]
  rw [hmem]
  constructor
  · rintro ⟨v, hv, hr, hn⟩
    -- a catalog with a tool is not the one that stands in for a missing Makefile
    have hl : cfg.load disk = .ok c := by
      refine (refresh_eq_ok_iff.1 hc).resolve_right ?_
      rintro ⟨-, -, -, rfl⟩
      contradiction
    exact ⟨u.name, rfl, c, u, v, hl, hu, hv, hr, hn⟩
  · rintro ⟨target, ht, d, w, v, hl, hw, hv, hr, hn⟩
    obtain rfl : d = c := by
      rw [refresh_eq_ok_iff.2 (.inl hl)] at hc
      exact Except.ok.inj hc
    obtain rfl : u.name = target := (String.append_right_inj _).1 ht
    obtain rfl : w = u := Option.some.inj (hw.symm.trans hu)
    exact ⟨v, hv, hr, hn⟩

end Server.Config

/-! ## Arguments -/

/-- Arguments that are all texts. -/
def givenTexts (given : List (String × String)) : List (String × Value) :=
  given.map fun a => (a.1, .text a.2)

theorem lookup_givenTexts (given : List (String × String)) (name : String) :
    (givenTexts given).lookup name = (given.lookup name).map .text :=
  lookup_map_snd Value.text given name

theorem isNone_lookup_givenTexts {given : List (String × String)} {name : String} :
    ((givenTexts given).lookup name).isNone = true ↔ name ∉ given.map (·.1) := by
  rw [lookup_givenTexts, Option.isNone_map, Option.isNone_iff_eq_none, List.lookup_eq_none_iff]
  constructor
  · intro h hm
    obtain ⟨a, ha, rfl⟩ := List.mem_map.1 hm
    exact bne_iff_ne.1 (h a ha) rfl
  · intro h a ha
    exact bne_iff_ne.2 fun he => h (List.mem_map.2 ⟨a, ha, he.symm⟩)

/-- Of texts a schema complains only if a required name is missing. -/
theorem Schema.check_givenTexts (schema : Schema) (given : List (String × String)) :
    schema.check (givenTexts given) =
      (schema.required.find? fun name => ((givenTexts given).lookup name).isNone).map .missing := by
  have hlisted : ∀ name, ((givenTexts given).lookup name).bind (fun value =>
      if value.isText then none else some (Complaint.notText value)) = none := by
    intro name
    rw [lookup_givenTexts]
    cases given.lookup name <;> rfl
  unfold check
  cases schema.required.find? fun name => ((givenTexts given).lookup name).isNone with
  | some name => rfl
  | none => simp [hlisted]

theorem Schema.isSome_check_givenTexts {schema : Schema} {given : List (String × String)} :
    (schema.check (givenTexts given)).isSome = true ↔
      ∃ name ∈ schema.required, name ∉ given.map (·.1) := by
  rw [check_givenTexts, Option.isSome_map, List.find?_isSome]
  simp only [isNone_lookup_givenTexts]

namespace Session

variable {s : Session} {tool : String} {given : List (String × String)}

/-! ## What the client knows -/

/-- The client knows the tools that would be listed now. -/
def UpToDate (s : Session) : Prop :=
  ∃ c, s.server.config.refresh s.disk = .ok c ∧ s.known = s.server.config.tools c

theorem answer_relist {c : Catalog} (h : s.server.config.refresh s.disk = .ok c) :
    s.relist.2.answer = .ok (s.server.config.tools c) := by
  simp only [relist, Server.list, h, Except.map]

theorem answer_clientList {c : Catalog} (h : s.server.config.refresh s.disk = .ok c) :
    (s.step .clientList).2.answer = .tools (.ok (s.server.config.tools c)) :=
  congrArg Answer.tools (answer_relist h)

theorem known_relist {c : Catalog} (h : s.server.config.refresh s.disk = .ok c) :
    s.relist.1.known = s.server.config.tools c := by
  simp only [relist, Server.list, h, Except.map, Except.toOption, Option.getD_some]

/-- What the client knows is up to date behind a listing that succeeds. -/
theorem upToDate_of_clientList {tools : List Tool}
    (h : (s.step .clientList).2.answer = .tools (.ok tools)) :
    (s.step .clientList).1.UpToDate := by
  cases hc : s.server.config.refresh s.disk with
  | error r => simp [step, relist, Server.list, hc, Except.map] at h
  | ok c =>
      refine ⟨c, ?_, ?_⟩
      · rw [config_step]
        exact hc
      · rw [config_step]
        exact known_relist hc

theorem UpToDate.known_relist (h : s.UpToDate) : s.relist.1.known = s.known := by
  obtain ⟨c, hc, hk⟩ := h
  rw [Session.known_relist hc, hk]

/-- A look-up changes nothing of what the client knows, if it is up to date. -/
theorem UpToDate.known_findTool (h : s.UpToDate) (tool : String) :
    (s.findTool tool).1.known = s.known := by
  unfold findTool
  cases s.known? tool with
  | some t => rfl
  | none => exact h.known_relist

/-- A look-up then gives the tool that the client knows: listing again brings no
tool that was not known. -/
theorem UpToDate.answer_findTool (h : s.UpToDate) (tool : String) :
    (s.findTool tool).2.answer = .ok (s.known? tool) := by
  unfold findTool
  cases ht : s.known? tool with
  | some t => rfl
  | none =>
      have hagain : s.relist.1.known? tool = none := by rw [known?, h.known_relist, ← known?, ht]
      obtain ⟨c, hc, -⟩ := h
      simp only [answer_relist hc, Except.map, hagain]

/-- A call that the client complains of goes no further than its look-up. -/
theorem clientCall_of_complaint {arguments : List (String × Value)} {t : Option Tool}
    {c : Schema.Complaint} (hf : (s.findTool tool).2.answer = .ok t)
    (hc : complaint? t arguments = some c) :
    s.clientCall tool arguments =
      ((s.findTool tool).1, { (s.findTool tool).2 with answer := .clientText c.message true }) := by
  simp only [clientCall, hf, hc]

/-- Any other call is passed on. -/
theorem clientCall_of_no_complaint {arguments : List (String × Value)} {t : Option Tool}
    (hf : (s.findTool tool).2.answer = .ok t) (hc : complaint? t arguments = none) :
    let called := (s.findTool tool).1.callServer tool arguments
    s.clientCall tool arguments =
      (called.1, { answer := .clientText called.2.answer false
                   events := called.2.events
                   log := (s.findTool tool).2.log ++ called.2.log }) := by
  simp only [clientCall, hf, hc]

theorem UpToDate.known_step (h : s.UpToDate) (step : Step) :
    (s.step step).1.known = s.known := by
  cases step with
  | change path c => rfl
  | start => rfl
  | list => rfl
  | call tool arguments => rfl
  | inspect => rfl
  | clientList => exact h.known_relist
  | clientCall tool arguments =>
      rw [Session.step]
      cases hc : complaint? (s.known? tool) arguments with
      | some c =>
          rw [clientCall_of_complaint (h.answer_findTool tool) hc]
          exact h.known_findTool tool
      | none =>
          rw [clientCall_of_no_complaint (h.answer_findTool tool) hc]
          exact h.known_findTool tool

/-- A step that changes no file and no fault keeps the client up to date. -/
theorem UpToDate.step {step : Step} (h : s.UpToDate) (hd : s.disk.Agrees (s.step step).1.disk) :
    (s.step step).1.UpToDate := by
  have hk := h.known_step step
  obtain ⟨c, hc, htools⟩ := h
  refine ⟨c, ?_, ?_⟩
  · rw [config_step, ← Config.refresh_congr _ hd, hc]
  · rw [hk, htools, config_step]

/-- So does a run of such steps. -/
theorem UpToDate.run {steps : List Step} (h : s.UpToDate)
    (hd : ∀ t ∈ s.transitions steps, t.before.disk.Agrees t.after.disk) :
    (s.run steps).1.UpToDate := by
  induction steps generalizing s with
  | nil => exact h
  | cons step steps ih =>
      obtain ⟨hfirst, hrest⟩ := List.forall_mem_cons.1 hd
      exact ih (h.step hfirst) hrest

/-- Does the step write to the disk? -/
def Step.isChange : Step → Bool
  | .change _ _ => true
  | .start | .list | .call _ _ | .inspect | .clientList | .clientCall _ _ => false

theorem disk_step {step : Step} (h : step.isChange = false) : (s.step step).1.disk = s.disk := by
  cases step with
  | change path c => contradiction
  | start => rfl
  | list => rfl
  | call tool arguments => rfl
  | inspect => rfl
  | clientList => rfl
  | clientCall tool arguments =>
      obtain ⟨hd, -, -, -⟩ := s.findTool_frame tool
      simp only [Session.step, clientCall]
      split
      · exact hd
      · split
        · exact hd
        · exact hd

/-- Steps that do not write to the disk change no file and no fault. -/
theorem agrees_of_mem_transitions {steps : List Step} (h : ∀ step ∈ steps, step.isChange = false) :
    ∀ t ∈ s.transitions steps, t.before.disk.Agrees t.after.disk := by
  induction steps generalizing s with
  | nil => exact fun t ht => absurd ht List.not_mem_nil
  | cons step steps ih =>
      obtain ⟨hfirst, hrest⟩ := List.forall_mem_cons.1 h
      exact List.forall_mem_cons.2 ⟨.of_eq (disk_step hfirst).symm, ih hrest⟩

/-! ## The gate -/

/-- The client refuses a call because of its arguments. -/
def Answer.IsInputError (a : Answer) : Prop := ∃ c : Schema.Complaint, a = .clientText c.message true

/-- The tool is one that would be listed now, and a variable that the Makefile
as it stands marks as required for its target is not given. -/
structure LacksRequired (s : Session) (tool : String) (given : List (String × String)) : Prop where
  listed : ∃ tools, (s.step .list).2.answer = .tools (.ok tools) ∧ tool ∈ tools.map (·.name)
  lacking : ∃ target name, tool = s.server.config.toolPrefix ++ target ∧
    s.server.config.Requires s.disk target name ∧ name ∉ given.map (·.1)

theorem answer_step_list {c : Catalog} (h : s.server.config.refresh s.disk = .ok c) :
    (s.step .list).2.answer = .tools (.ok (s.server.config.tools c)) := by
  simp only [Session.step, Server.list, h, Except.map]

/-- The client complains of texts exactly if the tool lacks a required
variable. -/
theorem UpToDate.isSome_complaint?_iff (h : s.UpToDate) :
    (complaint? (s.known? tool) (givenTexts given)).isSome = true ↔ s.LacksRequired tool given := by
  obtain ⟨c, hc, hk⟩ := h
  rw [known?, hk]
  constructor
  · intro hs
    cases ht : (s.server.config.tools c).find? (·.name == tool) with
    | none =>
        rw [ht] at hs
        contradiction
    | some t =>
        rw [ht] at hs
        obtain ⟨name, hr, hn⟩ := Schema.isSome_check_givenTexts.1 hs
        obtain ⟨target, htool, hreq⟩ := (Config.mem_required_iff_requires hc ht name).1 hr
        have hname := List.find?_some ht
        exact { listed := ⟨_, answer_step_list hc,
                  List.mem_map.2 ⟨t, List.mem_of_find?_eq_some ht, beq_iff_eq.1 hname⟩⟩
                lacking := ⟨target, name, htool, hreq, hn⟩ }
  · rintro ⟨⟨tools, hlist, hm⟩, target, name, htool, hreq, hn⟩
    obtain rfl : s.server.config.tools c = tools := by
      rw [answer_step_list hc] at hlist
      exact Except.ok.inj (Answer.tools.inj hlist)
    obtain ⟨t, ht⟩ : ∃ t, (s.server.config.tools c).find? (·.name == tool) = some t := by
      rw [← Option.isSome_iff_exists, List.find?_isSome]
      obtain ⟨t, ht, hname⟩ := List.mem_map.1 hm
      exact ⟨t, ht, beq_iff_eq.2 hname⟩
    rw [ht]
    exact Schema.isSome_check_givenTexts.2
      ⟨name, (Config.mem_required_iff_requires hc ht name).2 ⟨target, htool, hreq⟩, hn⟩

/-- A call of a listed tool that lacks a required variable is refused, and
nothing is executed. -/
theorem UpToDate.clientCall_of_lacksRequired (h : s.UpToDate) (hr : s.LacksRequired tool given) :
    (s.step (.clientCall tool (givenTexts given))).2.answer.IsInputError ∧
      (s.step (.clientCall tool (givenTexts given))).1.server.recorded = s.server.recorded ∧
      (s.step (.clientCall tool (givenTexts given))).2.events = [] := by
  obtain ⟨c, hc⟩ := Option.isSome_iff_exists.1 (h.isSome_complaint?_iff.2 hr)
  obtain ⟨-, -, hrec, hev⟩ := s.findTool_frame tool
  rw [Session.step, clientCall_of_complaint (h.answer_findTool tool) hc]
  exact ⟨⟨c, rfl⟩, hrec, hev⟩

/-- Any other call is answered as the server answers it, and the server does the
same for it. -/
theorem UpToDate.clientCall_of_not_lacksRequired (h : s.UpToDate)
    (hr : ¬ s.LacksRequired tool given) :
    ∃ text, (s.step (.call tool (givenTexts given))).2.answer = .text text ∧
      (s.step (.clientCall tool (givenTexts given))).2.answer = .clientText text false ∧
      (s.step (.clientCall tool (givenTexts given))).2.events =
        (s.step (.call tool (givenTexts given))).2.events := by
  have hc : complaint? (s.known? tool) (givenTexts given) = none := by
    rw [← Option.not_isSome_iff_eq_none, h.isSome_complaint?_iff]
    exact hr
  obtain ⟨hdisk, hconfig, -, -⟩ := s.findTool_frame tool
  have hcalled : ((s.findTool tool).1.callServer tool (givenTexts given)).2 =
      (s.callServer tool (givenTexts given)).2 :=
    Server.reply_call_congr hconfig (.of_eq hdisk) tool (givenTexts given)
  have hstep : (s.step (.clientCall tool (givenTexts given))).2 =
      { answer := .clientText (s.callServer tool (givenTexts given)).2.answer false
        events := (s.callServer tool (givenTexts given)).2.events
        log := (s.findTool tool).2.log ++ (s.callServer tool (givenTexts given)).2.log } := by
    rw [Session.step, clientCall_of_no_complaint (h.answer_findTool tool) hc, hcalled]
  rw [hstep]
  exact ⟨(s.callServer tool (givenTexts given)).2.answer, rfl, rfl, rfl⟩

/-- A listing by the client succeeded on the way to this session, and no file and
no fault changed since. -/
def Settled (now : Session) : Prop :=
  ∃ (s : Session) (tools : List Tool) (later : List Step),
    (s.step .clientList).2.answer = .tools (.ok tools) ∧
    (∀ t ∈ (s.step .clientList).1.transitions later, t.before.disk.Agrees t.after.disk) ∧
    now = ((s.step .clientList).1.run later).1

theorem Settled.upToDate (h : s.Settled) : s.UpToDate := by
  obtain ⟨start, tools, later, hl, hd, rfl⟩ := h
  exact (upToDate_of_clientList hl).run hd

/-- **The gate**: let a client have listed the tools with success, and no file and
no fault have changed since.  It then refuses a call whose arguments are texts
exactly if the tool is one that would be listed now and lacks a variable that
the Makefile marks as required, and it executes nothing for such a call.  Any
other call is answered with the text of a direct call. -/
theorem clientCall_agrees (h : s.Settled) (tool : String) (given : List (String × String)) :
    let through := s.step (.clientCall tool (givenTexts given))
    let direct := s.step (.call tool (givenTexts given))
    (through.2.answer.IsInputError ↔ s.LacksRequired tool given) ∧
      (through.2.answer.IsInputError →
        through.1.server.recorded = s.server.recorded ∧ through.2.events = []) ∧
      (¬ through.2.answer.IsInputError → ∃ text, direct.2.answer = .text text ∧
        through.2.answer = .clientText text false ∧ through.2.events = direct.2.events) := by
  intro through direct
  have hiff : through.2.answer.IsInputError ↔ s.LacksRequired tool given := by
    constructor
    · rintro ⟨c, hc⟩
      by_contra hr
      obtain ⟨text, -, ha, -⟩ := h.upToDate.clientCall_of_not_lacksRequired hr
      rw [ha] at hc
      exact Bool.false_ne_true (Answer.clientText.inj hc).2
    · exact fun hr => (h.upToDate.clientCall_of_lacksRequired hr).1
  refine ⟨hiff, fun he => ?_, fun he => ?_⟩
  · exact (h.upToDate.clientCall_of_lacksRequired (hiff.1 he)).2
  · exact h.upToDate.clientCall_of_not_lacksRequired fun hr => he (hiff.2 hr)

/-- A variable that the recipe requires has to be given, also behind a call of an
unknown tool, for which the client lists again. -/
theorem clientCall_agrees_of_one_variable :
    let s := Session.beside "run:\n\techo $(A)\n" []
    let now := ((s.step .clientList).1.run [.list, .clientCall "make_other" []]).1
    now.Settled ∧
      (now.step (.clientCall "make_run" (givenTexts []))).2.answer.IsInputError ∧
      ∃ text, (now.step (.call "make_run" (givenTexts [("A", "1")]))).2.answer = .text text ∧
        (now.step (.clientCall "make_run" (givenTexts [("A", "1")]))).2.answer =
          .clientText text false := by
  intro s now
  have hload : s.server.config.load s.disk =
      .ok (.ofText 4 ⟨.relative, ["Makefile"]⟩ "run:\n\techo $(A)\n") :=
    Catalog.load_eq_ok_iff.2 ⟨_, by decide +kernel, rfl⟩
  have hc := Config.refresh_eq_ok_iff.2 (.inl hload)
  have h : now.Settled :=
    ⟨s, _, _, answer_clientList hc, agrees_of_mem_transitions (by decide), rfl⟩
  have hdisk : now.disk = s.disk := by decide +kernel
  have hconfig : now.server.config = s.server.config := (config_run _ _).trans (config_step _ _)
  have hnow : now.server.config.refresh now.disk = s.server.config.refresh s.disk := by
    rw [hdisk, hconfig]
  have hlacks : now.LacksRequired "make_run" [] := by
    refine ⟨⟨_, answer_step_list (hnow.trans hc), ?_⟩, "run", "A", ?_, ?_, List.not_mem_nil⟩
    · rw [hconfig]
      decide +kernel
    · rw [hconfig]
      decide
    · rw [hconfig, hdisk]
      decide +kernel
  have hflag : (match (now.step (.clientCall "make_run" (givenTexts [("A", "1")]))).2.answer with
      | .clientText _ isError => isError
      | _ => true) = false := by decide +kernel
  have hpassed :
      ¬ (now.step (.clientCall "make_run" (givenTexts [("A", "1")]))).2.answer.IsInputError := by
    rintro ⟨c, hc⟩
    rw [hc] at hflag
    exact Bool.noConfusion hflag
  obtain ⟨text, hdirect, hthrough, -⟩ := (clientCall_agrees h "make_run" [("A", "1")]).2.2 hpassed
  exact ⟨h, (clientCall_agrees h "make_run" []).1.2 hlacks, text, hdirect, hthrough⟩

end Session
end MakeTools
