import MakeTools.Proofs.Acceptance

/-!
# MakeTools.Proofs.Handover

What is handed over to be run, over whole sessions.

A command is handed over by being recorded, as dry runs do, or by being started
as a child process.  A call hands over nothing, or the one command that was
built for a declared and allowed target (`Handover`); no other step hands over
anything.  The files, the catalog that the server loaded last and the tools
that the client knows may be anything: every call loads the Makefile again, so
that what holds of one step (`handover_step`) holds along a run.

The allowlist is checked on the target of the tool only.  A hidden target comes
into a command as a word of the raw arguments, and in no other way
(`mem_drop_build_iff`).
-/

namespace MakeTools

open Command Server

/-! ## Commands of a run -/

/-- The command that an event starts. -/
def Event.command? : Event → Option (List String)
  | .spawn command _ _ => some command
  | .killGroup _ _ | .wait => none

/-- The commands that events start. -/
def Event.commands (events : List Event) : List (List String) := events.filterMap Event.command?

namespace Run

theorem Killing.events_fail (events : List Event) (f : Failure) :
    (Killing.fail events f).events = events := by
  unfold Killing.fail
  split
  · rfl
  · rfl
  · split <;> rfl

theorem commands_killStarted (started : Option Child) :
    Event.commands (killStarted started).events = [] := by
  cases started with
  | none => rfl
  | some c =>
      simp only [killStarted, kill]
      split <;> split <;> simp [Killing.events_fail, Event.commands, Event.command?]

/-- Nothing is started to see a child through that has been started. -/
theorem commands_attend (c : Child) (r : Request) (command : List String) :
    Event.commands (attend c r command).events = [] := by
  have hb : ∀ duration started f,
      Event.commands (breakOff r command duration started f).events = [] := by
    intro duration started f
    unfold breakOff
    split
    · exact commands_killStarted started
    · exact commands_killStarted started
    · rfl
  simp only [attend]
  split
  · exact hb _ _ _
  · exact hb _ _ _
  · rfl

/-- A request that passes the checks has the command that was built for it. -/
theorem build_of_checkRequest {disk : Disk} {r : Request} {command : List String}
    (h : checkRequest disk r = .ok command) :
    build r.target r.makefile r.settings r.rawArgs = .ok command := by
  unfold checkRequest at h
  split at h
  · contradiction
  · next built hb =>
    split at h
    · contradiction
    · contradiction
    · contradiction
    · split at h
      · contradiction
      · rw [hb, Except.ok.inj h]

/-- A supervised run starts nothing, or the command that was built for the
request. -/
theorem commands_withChild (disk : Disk) (c : Child) (r : Request) :
    Event.commands (withChild disk c r).events = [] ∨
      ∃ command, build r.target r.makefile r.settings r.rawArgs = .ok command ∧
        Event.commands (withChild disk c r).events = [command] := by
  unfold withChild
  cases hr : checkRequest disk r with
  | error e => exact .inl rfl
  | ok command =>
      simp only [launchIn]
      cases checkDirectory disk r.workDirectory with
      | error e => exact .inl rfl
      | ok _ =>
          exact .inr ⟨command, build_of_checkRequest hr,
            congrArg (command :: ·) (commands_attend c r command)⟩

end Run

/-- The commands that a run hands over: those that it records and those that it
starts. -/
def Executor.handed (e : Executor) (run : Run) : List (List String) :=
  e.recorded run ++ Event.commands run.events

/-- Any way to run a request hands over nothing, or the command that was built
for the request. -/
theorem Executor.handed_run (e : Executor) (disk : Disk) (r : Request) :
    e.handed (e.run disk r) = [] ∨
      ∃ command, build r.target r.makefile r.settings r.rawArgs = .ok command ∧
        e.handed (e.run disk r) = [command] := by
  cases e with
  | failing f => exact .inl rfl
  | child c => exact Run.commands_withChild disk c r
  | dry succeeds output =>
      simp only [handed, run]
      cases hb : build r.target r.makefile r.settings r.rawArgs with
      | error e => exact .inl rfl
      | ok command => exact .inr ⟨command, rfl, rfl⟩

/-! ## Calls -/

/-- What a call may hand over: nothing, or the command that was built for a
target which the Makefile declares as it stands and which is allowed. -/
inductive Handover (cfg : Config) (disk : Disk) (tool : String)
    (arguments : List (String × Value)) : List (List String) → Prop where
  | nothing : Handover cfg disk tool arguments []
  | one (target : String) (command : List String)
      (named : tool = cfg.toolPrefix ++ target)
      (declared : cfg.Declares disk target)
      (allowed : cfg.isAllowed target = true)
      (built : build target cfg.makefile (collect arguments).1 (collect arguments).2 =
        .ok command) :
      Handover cfg disk tool arguments [command]

/-- A call adds to the record, and what it adds and starts is a handover. -/
theorem Server.handover_call (s : Server) (disk : Disk) (tool : String)
    (arguments : List (String × Value)) :
    ∃ new, (s.call disk tool arguments).1.recorded = s.recorded ++ new ∧
      Handover s.config disk tool arguments
        (new ++ Event.commands (s.call disk tool arguments).2.events) := by
  cases hr : s.config.accept disk tool arguments with
  | error o =>
      obtain ⟨hrec, hev, -⟩ := call_of_accept_eq_error hr
      refine ⟨[], by rw [hrec, List.append_nil], ?_⟩
      rw [hev]
      exact .nothing
  | ok r =>
      obtain ⟨hrec, hev, -⟩ := call_of_accept_eq_ok hr
      refine ⟨_, hrec, ?_⟩
      rw [hev]
      obtain ⟨target, ht, hd, ha, -, -, rfl⟩ := Config.accept_eq_ok_iff.1 hr
      rcases s.config.executor.handed_run disk (s.config.request target (collect arguments)) with
        h | ⟨command, hb, h⟩
      · rw [← Executor.handed, h]
        exact .nothing
      · rw [← Executor.handed, h]
        exact .one target command ht hd ha hb

@[simp] theorem Server.config_call (s : Server) (disk : Disk) (tool : String)
    (arguments : List (String × Value)) : (s.call disk tool arguments).1.config = s.config := by
  unfold call
  cases s.config.accept disk tool arguments <;> simp

/-! ## Steps -/

namespace Session

/-- The call that a step makes. -/
def Step.call? : Step → Option (String × List (String × Value))
  | .call tool arguments | .clientCall tool arguments => some (tool, arguments)
  | .change _ _ | .start | .list | .inspect | .clientList => none

/-- Only the known tools and the catalog depend on a look-up by the client. -/
theorem findTool_frame (s : Session) (tool : String) :
    (s.findTool tool).1.disk = s.disk ∧
      (s.findTool tool).1.server.config = s.server.config ∧
      (s.findTool tool).1.server.recorded = s.server.recorded ∧
      (s.findTool tool).2.events = [] := by
  unfold findTool
  split
  · exact ⟨rfl, rfl, rfl, rfl⟩
  · exact ⟨rfl, config_keep _ _, recorded_keep _ _, rfl⟩

/-- No step changes how the server is set up. -/
theorem config_step (s : Session) (step : Step) :
    (s.step step).1.server.config = s.server.config := by
  cases step with
  | change path c => rfl
  | start =>
      simp only [Session.step, Server.start]
      cases s.server.config.load s.disk <;> rfl
  | list => exact config_keep _ _
  | call tool arguments => exact config_call _ _ _ _
  | inspect => rfl
  | clientList => exact config_keep _ _
  | clientCall tool arguments =>
      obtain ⟨-, hc, -, -⟩ := findTool_frame s tool
      simp only [Session.step, clientCall]
      split
      · exact hc
      · split
        · exact hc
        · exact (config_call _ _ _ _).trans hc

/-- A step adds to the record.  What a call adds and starts is a handover; any
other step adds and starts nothing. -/
theorem handover_step (s : Session) (step : Step) :
    ∃ new, (s.step step).1.server.recorded = s.server.recorded ++ new ∧
      match step.call? with
      | some (tool, arguments) => Handover s.server.config s.disk tool arguments
          (new ++ Event.commands (s.step step).2.events)
      | none => new ++ Event.commands (s.step step).2.events = [] := by
  cases step with
  | change path c => exact ⟨[], by simp [Session.step], rfl⟩
  | start =>
      refine ⟨[], ?_⟩
      simp only [Session.step, Server.start, Step.call?]
      cases s.server.config.load s.disk <;> simp [Event.commands]
  | list => exact ⟨[], by simp [Session.step, Server.list], rfl⟩
  | call tool arguments => exact handover_call s.server s.disk tool arguments
  | inspect => exact ⟨[], by simp [Session.step], rfl⟩
  | clientList => exact ⟨[], by simp [Session.step, relist, Server.list], rfl⟩
  | clientCall tool arguments =>
      obtain ⟨hd, hc, hrec, hev⟩ := findTool_frame s tool
      simp only [Session.step, clientCall, Step.call?]
      split
      · refine ⟨[], by rw [hrec, List.append_nil], ?_⟩
        rw [hev]
        exact .nothing
      · split
        · refine ⟨[], by rw [hrec, List.append_nil], ?_⟩
          rw [hev]
          exact .nothing
        · have h := handover_call (s.findTool tool).1.server (s.findTool tool).1.disk tool arguments
          simp only [hc, hrec] at h
          rw [← hd]
          exact h

/-! ## Runs -/

/-- A step of a run, and the session that it is taken in. -/
structure Transition where
  before : Session
  step : Step

namespace Transition

/-- The session behind a step. -/
def after (t : Transition) : Session := (t.before.step t.step).1

/-- The reply to a step. -/
def reply (t : Transition) : Reply := (t.before.step t.step).2

/-- The commands that a step hands over: those that are new in the record and
those that it starts. -/
def handed (t : Transition) : List (List String) :=
  t.after.server.recorded.drop t.before.server.recorded.length ++ Event.commands t.reply.events

end Transition

/-- The steps of a run, each with the session that it is taken in. -/
def transitions (s : Session) : List Step → List Transition
  | [] => []
  | step :: steps => ⟨s, step⟩ :: (s.step step).1.transitions steps

theorem map_reply_transitions (s : Session) (steps : List Step) :
    (s.transitions steps).map Transition.reply = (s.run steps).2 := by
  induction steps generalizing s with
  | nil => rfl
  | cons step steps ih => exact congrArg (_ :: ·) (ih _)

/-- What every step keeps holds in front of each step of a run. -/
theorem before_of_mem_transitions {P : Session → Prop}
    (hstep : ∀ s step, P s → P (s.step step).1) {s : Session} (hs : P s) (steps : List Step) :
    ∀ t ∈ s.transitions steps, P t.before := by
  induction steps generalizing s with
  | nil => exact fun t ht => absurd ht List.not_mem_nil
  | cons step steps ih =>
      intro t ht
      rcases List.mem_cons.1 ht with rfl | ht
      · exact hs
      · exact ih (hstep s step hs) t ht

/-- The server is set up the same way in front of each step of a run. -/
theorem config_of_mem_transitions {s : Session} {steps : List Step} {t : Transition}
    (h : t ∈ s.transitions steps) : t.before.server.config = s.server.config :=
  before_of_mem_transitions (P := fun u => u.server.config = s.server.config)
    (fun u step hu => (config_step u step).trans hu) rfl steps t h

theorem Transition.isPrefix_recorded (t : Transition) :
    t.before.server.recorded <+: t.after.server.recorded := by
  obtain ⟨new, h, -⟩ := handover_step t.before t.step
  exact ⟨new, h.symm⟩

/-- What a step of a run hands over is the handover of a call, or nothing. -/
theorem Transition.handed_cases (t : Transition) :
    (∃ tool arguments, t.step.call? = some (tool, arguments) ∧
      Handover t.before.server.config t.before.disk tool arguments t.handed) ∨ t.handed = [] := by
  obtain ⟨new, hrec, h⟩ := handover_step t.before t.step
  have hn : t.handed = new ++ Event.commands (t.before.step t.step).2.events := by
    rw [handed, after, hrec, List.drop_left, reply]
  rw [hn]
  cases hc : t.step.call? with
  | none =>
      rw [hc] at h
      exact .inr h
  | some call =>
      rw [hc] at h
      exact .inl ⟨call.1, call.2, rfl, h⟩

theorem Transition.length_handed_le_one (t : Transition) : t.handed.length ≤ 1 := by
  rcases t.handed_cases with ⟨tool, arguments, -, h⟩ | h
  · generalize t.handed = handed at h ⊢
    cases h with
    | nothing => exact Nat.zero_le 1
    | one target command named declared allowed built => exact Nat.le_refl 1
  · rw [h]
    exact Nat.zero_le 1

/-- A command that a step hands over was built for the call that the step
makes, of a target that is declared at that step and allowed. -/
theorem Transition.exists_call_of_mem_handed {t : Transition} {command : List String}
    (hm : command ∈ t.handed) :
    ∃ tool arguments target, t.step.call? = some (tool, arguments) ∧
      tool = t.before.server.config.toolPrefix ++ target ∧
      t.before.server.config.Declares t.before.disk target ∧
      (t.before.server.config.allowed = [] ∨ target ∈ t.before.server.config.allowed) ∧
      build target t.before.server.config.makefile (collect arguments).1 (collect arguments).2 =
        .ok command := by
  rcases t.handed_cases with ⟨tool, arguments, hcall, h⟩ | h
  · generalize t.handed = handed at h hm
    cases h with
    | nothing => exact absurd hm List.not_mem_nil
    | one target command' named declared allowed built =>
        obtain rfl : command = command' := List.mem_singleton.1 hm
        exact ⟨tool, arguments, target, hcall, named, declared, Config.isAllowed_iff.1 allowed,
          built⟩
  · rw [h] at hm
    exact absurd hm List.not_mem_nil

/-- **Execution safety**: along any run of any session the record is only
added to, only calls hand a command over, each at most one, and the command is
one of `make` on the server's Makefile for the target that the tool names: a
target that the Makefile declares at that step and that is allowed. -/
theorem handed_of_mem_transitions (s : Session) (steps : List Step) :
    (s.run steps).2 = (s.transitions steps).map Transition.reply ∧
    ∀ t ∈ s.transitions steps,
      t.before.server.recorded <+: t.after.server.recorded ∧
      t.handed.length ≤ 1 ∧
      ∀ command ∈ t.handed, ∃ tool arguments target,
        t.step.call? = some (tool, arguments) ∧
        tool = s.server.config.toolPrefix ++ target ∧
        ["make", "-f", toString s.server.config.makefile, target] <+: command ∧
        s.server.config.Declares t.before.disk target ∧
        (s.server.config.allowed = [] ∨ target ∈ s.server.config.allowed) := by
  refine ⟨(map_reply_transitions s steps).symm, ?_⟩
  intro t ht
  rw [← config_of_mem_transitions ht]
  refine ⟨t.isPrefix_recorded, t.length_handed_le_one, ?_⟩
  intro command hm
  obtain ⟨tool, arguments, target, hcall, hn, hd, ha, hb⟩ :=
    Transition.exists_call_of_mem_handed hm
  obtain ⟨-, -, -, words, -, rfl⟩ := build_eq_ok_iff.1 hb
  refine ⟨tool, arguments, target, hcall, hn, ?_, hd, ha⟩
  rw [List.append_assoc]
  exact List.prefix_append _ _

/-- A target that an edit of the Makefile brings can be run through a client
that listed the tools before the edit, and only because of the edit. -/
theorem handed_of_edited_makefile :
    ∃ t ∈ (Session.beside "build:\n" ["deploy"]).transitions
        [.clientList, .change ⟨.relative, ["Makefile"]⟩ (.write "deploy:\n".toUTF8.data.toList),
          .clientCall "make_deploy" []],
      ["make", "-f", "Makefile", "deploy"] ∈ t.handed ∧
      (Session.beside "build:\n" ["deploy"]).server.config.Declares t.before.disk "deploy" ∧
      ¬ (Session.beside "build:\n" ["deploy"]).server.config.Declares
        (Session.beside "build:\n" ["deploy"]).disk "deploy" := by
  obtain ⟨t, ht, hc⟩ : ∃ t ∈ (Session.beside "build:\n" ["deploy"]).transitions
      [.clientList, .change ⟨.relative, ["Makefile"]⟩ (.write "deploy:\n".toUTF8.data.toList),
        .clientCall "make_deploy" []], ["make", "-f", "Makefile", "deploy"] ∈ t.handed :=
    ⟨_, List.mem_cons_of_mem _ (List.mem_cons_of_mem _ List.mem_cons_self), by decide +kernel⟩
  obtain ⟨-, -, h⟩ := (handed_of_mem_transitions _ _).2 t ht
  obtain ⟨tool, arguments, target, -, -, hp, hd, -⟩ := h _ hc
  have he : target = "deploy" := by
    simp only [List.cons_prefix_cons] at hp
    exact hp.2.2.2.1
  rw [he] at hd
  exact ⟨t, ht, hc, hd, by decide +kernel⟩

/-! ## Words of a command -/

theorem not_isTargetName_of_assignmentWord (v : String × String) :
    isTargetName (assignmentWord v).toList = false := by
  by_contra h
  rw [Bool.not_eq_false] at h
  exact not_mem_of_isTargetName h (by simp [assignmentWord])

/-- A target's name other than the goal of a command is a word of the command
exactly if it is a word of the raw arguments. -/
theorem mem_drop_build_iff {target name : String} {makefile : Path}
    {settings : List (String × String)} {rawArgs : String} {command words : List String}
    (hb : build target makefile settings rawArgs = .ok command)
    (hw : Shell.words rawArgs = some words) (hn : isTargetName name.toList = true)
    (hne : name ≠ target) : name ∈ command.drop 3 ↔ name ∈ words := by
  obtain ⟨-, -, -, words', hw', rfl⟩ := build_eq_ok_iff.1 hb
  obtain rfl : words' = words :=
    Option.some.inj ((rawWords_eq_ok_iff.1 hw').symm.trans hw)
  have hs : name ∉ settings.map assignmentWord := by
    intro hm
    obtain ⟨v, -, rfl⟩ := List.mem_map.1 hm
    rw [not_isTargetName_of_assignmentWord] at hn
    contradiction
  simp [hne, hs]

/-- **Hidden targets**: where a server has an allowlist, a declared target that
is not on it is a word of a command that is handed over, behind the Makefile,
exactly if it is a word of the raw arguments of the call. -/
theorem mem_drop_handed_iff_mem_words {s : Session} (hs : s.server.config.allowed ≠ [])
    (steps : List Step) :
    ∀ t ∈ s.transitions steps, ∀ command ∈ t.handed, ∃ tool arguments words,
      t.step.call? = some (tool, arguments) ∧
      Shell.words (collect arguments).2 = some words ∧
      ∀ name, s.server.config.Declares t.before.disk name → name ∉ s.server.config.allowed →
        (name ∈ command.drop 3 ↔ name ∈ words) := by
  intro t ht command hm
  rw [← config_of_mem_transitions ht] at hs ⊢
  obtain ⟨tool, arguments, target, hcall, -, -, ha, hb⟩ := Transition.exists_call_of_mem_handed hm
  obtain ⟨-, -, -, words, hw, -⟩ := build_eq_ok_iff.1 hb
  have hq : Shell.words (collect arguments).2 = some words := rawWords_eq_ok_iff.1 hw
  refine ⟨tool, arguments, words, hcall, hq, ?_⟩
  intro name hd hna
  have hne : name ≠ target := by
    rintro rfl
    exact hna (ha.resolve_left hs)
  exact mem_drop_build_iff hb hq hd.isTargetName hne

/-- Quotes around a hidden target do not keep it out: its word is one of the
command, and so one of the raw arguments. -/
theorem mem_drop_handed_of_quoted_target :
    (Session.beside "build:\ndeploy:\n" ["build"]).server.config.allowed ≠ [] ∧
    ∃ t ∈ (Session.beside "build:\ndeploy:\n" ["build"]).transitions
        [.call "make_build" [("args", .text "-j4 'deploy'")]],
      ["make", "-f", "Makefile", "build", "-j4", "deploy"] ∈ t.handed ∧
      ∃ words, Shell.words "-j4 'deploy'" = some words ∧ "deploy" ∈ words := by
  have hs : (Session.beside "build:\ndeploy:\n" ["build"]).server.config.allowed ≠ [] := by decide
  obtain ⟨t, ht, hc, hstep, hd⟩ : ∃ t ∈ (Session.beside "build:\ndeploy:\n" ["build"]).transitions
      [.call "make_build" [("args", .text "-j4 'deploy'")]],
      ["make", "-f", "Makefile", "build", "-j4", "deploy"] ∈ t.handed ∧
      t.step.call? = some ("make_build", [("args", .text "-j4 'deploy'")]) ∧
      (Session.beside "build:\ndeploy:\n" ["build"]).server.config.Declares t.before.disk
        "deploy" :=
    ⟨_, List.mem_cons_self, by decide +kernel, rfl, by decide +kernel⟩
  obtain ⟨tool, arguments, words, hcall, hq, h⟩ := mem_drop_handed_iff_mem_words hs _ t ht _ hc
  obtain ⟨-, rfl⟩ := Prod.mk.inj (Option.some.inj (hcall.symm.trans hstep))
  exact ⟨hs, t, ht, hc, words, hq, (h "deploy" hd (by decide)).1 (by decide)⟩

/-- An allowlist does not keep hidden targets out of the commands that are
handed over: the raw arguments of a call may name one as a further goal. -/
theorem exists_hidden_target_handed :
    ¬ ∀ (s : Session) (steps : List Step), s.server.config.allowed ≠ [] →
      ∀ t ∈ s.transitions steps, ∀ command ∈ t.handed, ∀ name,
        s.server.config.Declares t.before.disk name → name ∉ s.server.config.allowed →
        name ∉ command.drop 3 := by
  intro h
  exact h (.beside "build:\ndeploy:\n" ["build"]) [.call "make_build" [("args", .text "deploy")]]
    (by decide) ⟨_, _⟩ List.mem_cons_self ["make", "-f", "Makefile", "build", "deploy"]
    (by decide +kernel) "deploy" (by decide +kernel) (by decide) (by decide)

end Session

end MakeTools
