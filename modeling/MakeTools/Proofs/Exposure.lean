import Mathlib.Data.List.Basic
import MakeTools.CommandLine.Basic
import MakeTools.Proofs.Handover
import MakeTools.Proofs.Lexing
import MakeTools.Proofs.Listing

/-!
# MakeTools.Proofs.Exposure

What a server exposes whose allowlist comes from the environment.

The value there is cut at its commas; what is left of a piece without the
blanks around it is an item, unless nothing is left.  The server offers the
declared targets that are items, and a call of any other comes to nothing.  A
value of commas and blanks alone has no item.  It makes an empty allowlist, and
an empty allowlist is none: such a server offers every target that the Makefile
declares (`exposed_of_environment`).  The option for the allowlist cannot be
given so: it asks for a value, and a comma there is a name that no Makefile
declares.
-/

namespace MakeTools

open Text Command Server

namespace CommandLine

variable {w : Surroundings} {value name : String}

/-! ## Items -/

/-- An item of a text that separates names by commas: a piece between commas,
without the blanks around it, if anything is left of it. -/
def IsItem (value name : String) : Prop :=
  name ≠ "" ∧ ∃ piece ∈ value.toList.splitOn ',', trim piece = name.toList

/-- There is nothing in the text but commas and blanks. -/
def IsVoid (value : String) : Prop := ∀ c ∈ value.toList, c = ',' ∨ isBlank c = true

instance (value : String) : Decidable (IsVoid value) :=
  decidable_of_iff ((value.toList.all fun c => c == ',' || isBlank c) = true) (by simp [IsVoid])

theorem mem_commaSeparated_iff : name ∈ commaSeparated value ↔ IsItem value name := by
  rw [commaSeparated, List.filterMap_map, List.mem_filterMap]
  constructor
  · rintro ⟨piece, hm, he⟩
    rw [Function.comp_apply] at he
    split at he
    · contradiction
    · next hne =>
      obtain rfl := Option.some.inj he
      refine ⟨fun h => hne ?_, piece, hm, String.toList_ofList.symm⟩
      rw [List.isEmpty_iff, ← String.toList_ofList (l := trim piece), h, String.toList_empty]
  · rintro ⟨hne, piece, hm, he⟩
    exact ⟨piece, hm, by simp [he, hne]⟩

theorem exists_mem_splitOn_iff {sep c : Char} {s : List Char} :
    (∃ piece ∈ s.splitOn sep, c ∈ piece) ↔ c ∈ s ∧ c ≠ sep := by
  rw [List.splitOn_eq_splitOnP, exists_mem_splitOnP_iff, beq_eq_false_iff_ne]

/-- A text has no item exactly if it is void. -/
theorem isVoid_iff : IsVoid value ↔ ∀ name, ¬ IsItem value name := by
  constructor
  · rintro h name ⟨hne, piece, hm, he⟩
    have hblank : ∀ c ∈ piece, isBlank c = true := by
      intro c hc
      obtain ⟨hv, hn⟩ := exists_mem_splitOn_iff.1 ⟨piece, hm, hc⟩
      exact (h c hv).resolve_left hn
    rw [trim_eq_nil hblank] at he
    exact hne (String.toList_eq_nil_iff.1 he.symm)
  · intro h c hc
    by_contra hno
    obtain ⟨hn, hb⟩ := not_or.1 hno
    obtain ⟨piece, hm, hp⟩ := exists_mem_splitOn_iff.2 ⟨hc, hn⟩
    have htrim : c ∈ trim piece := (mem_trim_iff_of_not_isBlank (by simpa using hb)).2 hp
    refine h (String.ofList (trim piece)) ⟨fun he => ?_, piece, hm, String.toList_ofList.symm⟩
    rw [String.ofList_eq_empty_iff.1 he] at htrim
    exact List.not_mem_nil htrim

theorem commaSeparated_eq_nil_iff : commaSeparated value = [] ↔ IsVoid value := by
  simp only [isVoid_iff, List.eq_nil_iff_forall_not_mem, mem_commaSeparated_iff]

/-! ## The server that is started -/

theorem served_startServer (disk : Disk) (config : Config) (blank : List Flag) :
    (startServer disk config blank).served =
      some ⟨config, blank, (Server.start { config } disk).2.answer.isOk⟩ := by
  simp only [startServer]
  cases (Server.start { config } disk).2.answer with
  | error p => rfl
  | ok names => rfl

/-- How a server is set up by the options and the environment. -/
def servedConfig (w : Surroundings) (s : Settings) (makefile : Path) (timeout : Int) : Config where
  makefile := makefile
  allowed := allowedTargets w s
  toolPrefix := s.prefixText
  timeout := timeout
  maxChars := s.maxChars
  executor := .child {}

theorem config_of_served_serveMakefile {s : Settings} {makefile : Path} {timeout : Int}
    {served : Served} (h : (serveMakefile w s makefile timeout).served = some served) :
    served.config = servedConfig w s makefile timeout := by
  unfold serveMakefile at h
  split at h
  · contradiction
  · contradiction
  · split at h
    · contradiction
    · rw [served_startServer] at h
      rw [← Option.some.inj h]
      rfl

theorem run_of_verb_eq_serve {call : Call}
    (hp : parse w.program w.arguments = .ok (some call)) (hv : call.verb = .serve) :
    run w = serve w (call.path w) call.settings := by
  simp only [run, hp, Call.ending, hv]

/-- A server is set up with the values of the options and the environment. -/
theorem exists_config_of_served {call : Call} {served : Served}
    (hp : parse w.program w.arguments = .ok (some call)) (hv : call.verb = .serve)
    (hs : (run w).served = some served) :
    ∃ makefile timeout, timeLimit w call.settings = .ok timeout ∧
      served.config = servedConfig w call.settings makefile timeout := by
  rw [run_of_verb_eq_serve hp hv] at hs
  unfold serve at hs
  split at hs
  · contradiction
  · next makefile _ =>
    split at hs
    · contradiction
    · next timeout ht =>
      split at hs
      · contradiction
      · exact ⟨makefile, timeout, ht, config_of_served_serveMakefile hs⟩

/-- An allowlist of the environment lets a target through that is an item, or
any if there is none. -/
theorem isAllowed_iff_of_environment {cfg : Config} {s : Settings} {target : String}
    (ha : cfg.allowed = allowedTargets w s) (ho : s.allowed = [])
    (he : w.environment.lookup "MCP_MAKE_ALLOWED_TARGETS" = some value) :
    cfg.isAllowed target = true ↔ IsItem value target ∨ IsVoid value := by
  have hallowed : cfg.allowed = commaSeparated value := by
    rw [ha, allowedTargets, ho, he]
    rfl
  rw [Config.isAllowed_iff, hallowed, commaSeparated_eq_nil_iff, mem_commaSeparated_iff, or_comm]

/-- **Exposure by the environment**: let a server be started without names for
the allowlist among its options, and with a value for it in the environment.
What it lists, what comes to a run if it is called without arguments, and what
any session hands over are targets that the Makefile declares as it stands and
that are items of the value, or any declared targets if the value is void. -/
theorem exposed_of_environment {call : Call} {served : Served}
    (hp : parse w.program w.arguments = .ok (some call)) (hv : call.verb = .serve)
    (ho : call.settings.allowed = [])
    (he : w.environment.lookup "MCP_MAKE_ALLOWED_TARGETS" = some value)
    (hs : (run w).served = some served) :
    (∀ (s : Server) (disk : Disk) (tools : List Tool), s.config = served.config →
      (s.list disk).2.answer = .ok tools → ∀ name,
        name ∈ tools.map (·.name) ↔ ∃ target, name = served.config.toolPrefix ++ target ∧
          served.config.Declares disk target ∧ (IsItem value target ∨ IsVoid value)) ∧
    (∀ (disk : Disk) (name : String), (∃ r, served.config.accept disk name [] = .ok r) ↔
      ∃ target, name = served.config.toolPrefix ++ target ∧
        served.config.Declares disk target ∧ (IsItem value target ∨ IsVoid value)) ∧
    ∀ (s : Session) (steps : List Session.Step), s.server.config = served.config →
      ∀ t ∈ s.transitions steps, ∀ command ∈ t.handed, ∃ target,
        ["make", "-f", toString served.config.makefile, target] <+: command ∧
          served.config.Declares t.before.disk target ∧
          (IsItem value target ∨ IsVoid value) := by
  have ha : served.config.allowed = allowedTargets w call.settings := by
    obtain ⟨makefile, timeout, -, hc⟩ := exists_config_of_served hp hv hs
    rw [hc]
    rfl
  have hallowed : ∀ target, served.config.isAllowed target = true ↔
      IsItem value target ∨ IsVoid value :=
    fun target => isAllowed_iff_of_environment ha ho he
  refine ⟨?_, ?_, ?_⟩
  · intro s disk tools hc hlist name
    cases hfresh : served.config.refresh disk with
    | error r =>
        simp only [Server.list, hc, hfresh, Except.map] at hlist
        contradiction
    | ok c =>
        simp only [Server.list, hc, hfresh, Except.map] at hlist
        rw [← Except.ok.inj hlist, Config.mem_map_name_tools_iff]
        simp only [Config.mem_names_iff_declares hfresh, hallowed]
  · intro disk name
    simp only [Config.accept_eq_ok_iff, hallowed]
    constructor
    · rintro ⟨r, target, hn, hd, hi, -⟩
      exact ⟨target, hn, hd, hi⟩
    · rintro ⟨target, hn, hd, hi⟩
      have hwritable : Writable served.config.room [] := ⟨by simp, by simp⟩
      have hbuild : build target served.config.makefile (collect []).1 (collect []).2 =
          .ok ["make", "-f", toString served.config.makefile, target] :=
        (build_eq_ok_iff_of_isTargetName hd.isTargetName).2 ⟨by simp [collect], by simp [collect],
          [], rfl, by simp [collect]⟩
      exact ⟨_, target, hn, hd, hi, hwritable, ⟨_, hbuild⟩, rfl⟩
  · intro s steps hc t ht command hm
    obtain ⟨tool, arguments, target, -, -, hd, hallow, hb⟩ :=
      Session.Transition.exists_call_of_mem_handed hm
    rw [Session.config_of_mem_transitions ht, hc] at hd hallow hb
    obtain ⟨-, -, -, words, -, rfl⟩ := build_eq_ok_iff.1 hb
    refine ⟨target, ?_, hd, (hallowed target).1 (Config.isAllowed_iff.2 hallow)⟩
    rw [List.append_assoc]
    exact List.prefix_append _ _

/-! ## A server that starts -/

/-- A server is set up if the options can be read, something is there to serve,
and `make` is installed. -/
theorem served_run {call : Call} {makefile : Path} {entry : Disk.Entry} {timeout : Int}
    {level : Nat} (hp : parse w.program w.arguments = .ok (some call)) (hv : call.verb = .serve)
    (hm : resolveMakefile w.disk (call.path w) = .ok makefile)
    (ht : timeLimit w call.settings = .ok timeout) (hl : logLevel w call.settings = .ok level)
    (hf : w.disk.lookup makefile = .ok (some entry)) (hi : w.makeInstalled = true) :
    let config := servedConfig w call.settings makefile timeout
    (run w).served =
      some ⟨config, call.settings.blank, (Server.start { config } w.disk).2.answer.isOk⟩ := by
  intro config
  simp only [run_of_verb_eq_serve hp hv, serve, hm, ht, hl, serveMakefile, hf, hi, Bool.not_true,
    Bool.false_eq_true, if_false]
  exact served_startServer w.disk config call.settings.blank

/-- A server that is started beside a Makefile with this value for the allowlist
in the environment. -/
def Surroundings.serving (value : String) : Surroundings where
  arguments := ["serve"]
  environment := [("MCP_MAKE_ALLOWED_TARGETS", value)]
  disk := (Session.beside "build:\ndeploy:\n" []).disk

theorem parse_serving (value : String) :
    parse (Surroundings.serving value).program (Surroundings.serving value).arguments =
      .ok (some ⟨.serve, ⟨.relative, ["Makefile"]⟩, {}⟩) := by
  have h : parse "mcp-make-targets" ["serve"] =
      .ok (some ⟨.serve, ⟨.relative, ["Makefile"]⟩, {}⟩) := by decide +kernel
  exact h

theorem served_serving (value : String) :
    let config : Config :=
      { makefile := ⟨.relative, ["Makefile"]⟩
        allowed := commaSeparated value
        executor := .child {} }
    (run (.serving value)).served = some ⟨config, [],
      (Server.start { config } (Session.beside "build:\ndeploy:\n" []).disk).2.answer.isOk⟩ := by
  have hm : resolveMakefile (Session.beside "build:\ndeploy:\n" []).disk
      ⟨.relative, ["Makefile"]⟩ = .ok ⟨.relative, ["Makefile"]⟩ := by decide +kernel
  have hf : (Session.beside "build:\ndeploy:\n" []).disk.lookup ⟨.relative, ["Makefile"]⟩ =
      .ok (some (.file "build:\ndeploy:\n".toUTF8.data.toList)) := by decide +kernel
  have hl : Log.level "INFO" = .ok 20 := by decide +kernel
  exact served_run (parse_serving value) rfl hm rfl hl hf rfl

/-- Blanks and empty pieces around a name do not count, and the other target
is hidden. -/
theorem exposed_of_environment_of_one_item :
    ∃ call served, parse (Surroundings.serving " , build,").program
        (Surroundings.serving " , build,").arguments = .ok (some call) ∧
      call.verb = .serve ∧ call.settings.allowed = [] ∧
      (run (.serving " , build,")).served = some served ∧ served.serving = true ∧
      (∃ r, served.config.accept (Surroundings.serving "").disk "make_build" [] = .ok r) ∧
      ¬ ∃ r, served.config.accept (Surroundings.serving "").disk "make_deploy" [] = .ok r := by
  have hs := served_serving " , build,"
  obtain ⟨-, hcall, -⟩ := exposed_of_environment (parse_serving _) rfl rfl rfl hs
  refine ⟨_, _, parse_serving _, rfl, rfl, hs, by decide +kernel, ?_, ?_⟩
  · exact (hcall _ _).2 ⟨"build", by decide, by decide +kernel,
      .inl (mem_commaSeparated_iff.1 (by decide +kernel))⟩
  · rw [hcall]
    rintro ⟨target, hn, -, hitem | hvoid⟩
    · have hitems : commaSeparated " , build," = ["build"] := by decide +kernel
      rw [← mem_commaSeparated_iff, hitems, List.mem_singleton] at hitem
      rw [hitem] at hn
      exact absurd hn (by decide)
    · exact absurd hvoid (by decide +kernel)

/-- A value of commas and blanks alone, which is not empty, keeps nothing
hidden. -/
theorem exists_void_value_exposing :
    ¬ ∀ (w : Surroundings) (call : Call) (value : String) (served : Served),
      parse w.program w.arguments = .ok (some call) → call.verb = .serve →
      call.settings.allowed = [] → value ≠ "" →
      w.environment.lookup "MCP_MAKE_ALLOWED_TARGETS" = some value →
      (run w).served = some served → served.serving = true →
      ∀ (disk : Disk) (tools : List Tool),
        (Server.list { config := served.config } disk).2.answer = .ok tools →
        ∀ tool ∈ tools, ∃ target, IsItem value target ∧
          tool.name = served.config.toolPrefix ++ target := by
  intro h
  let config : Config :=
    { makefile := ⟨.relative, ["Makefile"]⟩
      allowed := commaSeparated ","
      executor := .child {} }
  have hlist := h (.serving ",") _ "," _ (parse_serving _) rfl rfl (by decide) rfl
    (served_serving ",") (by decide +kernel) (Surroundings.serving ",").disk
  have hnames : (Server.list { config } (Surroundings.serving ",").disk).2.answer.toOption.map
      (fun tools => tools.map (·.name)) = some ["make_build", "make_deploy"] := by decide +kernel
  cases hans : (Server.list { config } (Surroundings.serving ",").disk).2.answer with
  | error r =>
      rw [hans] at hnames
      contradiction
  | ok tools =>
      rw [hans] at hnames
      have hall : tools.map (·.name) = ["make_build", "make_deploy"] := Option.some.inj hnames
      have hm : "make_deploy" ∈ tools.map (·.name) := by simp [hall]
      obtain ⟨tool, htool, -⟩ := List.mem_map.1 hm
      obtain ⟨target, hitem, -⟩ := hlist tools hans tool htool
      exact isVoid_iff.1 (by decide) target hitem

end CommandLine

end MakeTools
