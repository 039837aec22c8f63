import Mathlib.Data.List.Nodup
import MakeTools.CommandLine.Basic
import MakeTools.Proofs.Acceptance

/-!
# MakeTools.Proofs.Listing

The tools that are listed, and that they are the ones that can be called.

A pass over the declarations offers the first declaration of each name that is
allowed (`map_name_offered`, `exists_eq_append_of_mem_offeredFrom`).  The names
of the tools are therefore distinct, they stand in the order of first
declaration, and each belongs to a call that runs its target
(`exists_recorded_call_nil_iff`).  The `list` command of the command line prints
the same names (`run_list`).
-/

namespace MakeTools

open Server

namespace Server.Config

/-! ## Declarations that are offered -/

/-- Which names a pass offers, given the names that were seen so far: those
that were not seen, each once, as far as they are allowed. -/
theorem map_name_offeredFrom (cfg : Config) (seen : List String) (ts : List Target) :
    (cfg.offeredFrom seen ts).map (·.name) =
      ((ts.map (·.name)).filter fun n => !seen.contains n).eraseDups.filter cfg.isAllowed := by
  induction ts generalizing seen with
  | nil => rfl
  | cons t ts ih =>
      rw [offeredFrom, List.map_cons]
      cases hs : seen.contains t.name with
      | true =>
          rw [if_pos rfl, ih, List.filter_cons_of_neg (by rw [hs]; decide)]
      | false =>
          -- what is not seen behind `t` is what `eraseDups` leaves behind `t.name`
          have hrest : ((ts.map (·.name)).filter fun n => !(t.name :: seen).contains n) =
              ((ts.map (·.name)).filter fun n => !seen.contains n).filter
                (fun n => !n == t.name) := by
            rw [List.filter_filter]
            congr 1
            funext n
            rw [List.contains_cons, Bool.not_or]
          rw [if_neg Bool.false_ne_true, List.filter_cons_of_pos (by rw [hs]; decide),
            List.eraseDups_cons, ← hrest]
          cases ha : cfg.isAllowed t.name with
          | true => rw [if_pos rfl, List.map_cons, ih, List.filter_cons_of_pos ha]
          | false =>
              rw [if_neg Bool.false_ne_true, ih, List.filter_cons_of_neg (by rw [ha]; decide)]

/-- The names that are offered of a catalog are its names as far as they are
allowed, in order. -/
theorem map_name_offered (cfg : Config) (c : Catalog) :
    (cfg.offered c).map (·.name) = c.names.filter cfg.isAllowed := by
  rw [offered, map_name_offeredFrom, Catalog.names]
  congr 2
  exact List.filter_eq_self.2 fun n _ => rfl

/-- A declaration that is offered is the first of its name, and its name was
not seen before. -/
theorem exists_eq_append_of_mem_offeredFrom {cfg : Config} {seen : List String}
    {ts : List Target} {t : Target} (h : t ∈ cfg.offeredFrom seen ts) :
    t.name ∉ seen ∧
      ∃ before after, ts = before ++ t :: after ∧ ∀ u ∈ before, u.name ≠ t.name := by
  induction ts generalizing seen with
  | nil => exact absurd h List.not_mem_nil
  | cons u ts ih =>
      rw [offeredFrom] at h
      -- what is offered further on has another name than `u`, which was seen by then
      have hlater : ∀ seen' : List String, t ∈ cfg.offeredFrom seen' ts → u.name ∈ seen' →
          t.name ∉ seen' ∧ ∃ before after, u :: ts = before ++ t :: after ∧
            ∀ v ∈ before, v.name ≠ t.name := by
        intro seen' ht hu
        obtain ⟨hn, before, after, he, hb⟩ := ih ht
        refine ⟨hn, u :: before, after, by rw [he, List.cons_append], ?_⟩
        intro v hv
        rcases List.mem_cons.1 hv with rfl | hv
        · exact fun hv => hn (hv ▸ hu)
        · exact hb v hv
      by_cases hs : seen.contains u.name = true
      · rw [if_pos hs] at h
        exact hlater seen h (List.contains_iff_mem.1 hs)
      · rw [if_neg hs] at h
        by_cases ht : t ∈ cfg.offeredFrom (u.name :: seen) ts
        · obtain ⟨hn, hb⟩ := hlater _ ht List.mem_cons_self
          exact ⟨fun hm => hn (List.mem_cons_of_mem _ hm), hb⟩
        · obtain rfl : t = u := by
            split at h
            · exact (List.mem_cons.1 h).resolve_right ht
            · exact absurd h ht
          exact ⟨fun hm => hs (List.contains_iff_mem.2 hm), [], ts, rfl, by simp⟩

/-- Looking up the name of a declaration that is offered gives the declaration. -/
theorem find?_of_mem_offered {cfg : Config} {c : Catalog} {t : Target} (h : t ∈ cfg.offered c) :
    c.find? t.name = some t := by
  obtain ⟨-, before, after, happ, hb⟩ := exists_eq_append_of_mem_offeredFrom h
  rw [Catalog.find?, happ, List.find?_append, List.find?_eq_none.2 (by simpa using hb)]
  simp

theorem nodup_map_name_offeredFrom (cfg : Config) (seen : List String) (ts : List Target) :
    ((cfg.offeredFrom seen ts).map (·.name)).Nodup := by
  induction ts generalizing seen with
  | nil => exact List.nodup_nil
  | cons t ts ih =>
      rw [offeredFrom]
      split
      · exact ih seen
      · split
        · rw [List.map_cons, List.nodup_cons]
          refine ⟨?_, ih _⟩
          intro hm
          obtain ⟨u, hu, he⟩ := List.mem_map.1 hm
          exact (exists_eq_append_of_mem_offeredFrom hu).1 (he ▸ List.mem_cons_self)
        · exact ih _

/-! ## Tools -/

/-- A tool is named after the declaration that it comes of. -/
theorem map_name_tools (cfg : Config) (c : Catalog) :
    (cfg.tools c).map (·.name) = (c.names.filter cfg.isAllowed).map (cfg.toolPrefix ++ ·) := by
  rw [← map_name_offered, tools, List.map_map, List.map_map]
  rfl

theorem nodup_map_name_tools (cfg : Config) (c : Catalog) :
    ((cfg.tools c).map (·.name)).Nodup := by
  rw [map_name_tools, ← map_name_offered]
  refine List.Nodup.map ?_ (nodup_map_name_offeredFrom cfg [] c.targets)
  intro a b h
  exact (String.append_right_inj _).1 h

/-- A name is listed exactly if it is the beginning of all tools' names and
then a target that the catalog has and that is allowed. -/
theorem mem_map_name_tools_iff {cfg : Config} {c : Catalog} {name : String} :
    name ∈ (cfg.tools c).map (·.name) ↔
      ∃ target, name = cfg.toolPrefix ++ target ∧ target ∈ c.names ∧
        cfg.isAllowed target = true := by
  rw [map_name_tools, List.mem_map]
  constructor
  · rintro ⟨target, hm, rfl⟩
    exact ⟨target, rfl, List.mem_filter.1 hm⟩
  · rintro ⟨target, rfl, hm⟩
    exact ⟨target, List.mem_filter.2 hm, rfl⟩

end Server.Config

/-! ## The same names elsewhere -/

/-- Without an allowlist every name is offered. -/
theorem Server.Config.map_name_offered_of_allowed_eq_nil {cfg : Config} (h : cfg.allowed = [])
    (c : Catalog) : (cfg.offered c).map (·.name) = c.names := by
  rw [map_name_offered]
  exact List.filter_eq_self.2 fun n _ => isAllowed_iff.2 (.inl h)

theorem Server.Config.map_name_tools_of_allowed_eq_nil {cfg : Config} (h : cfg.allowed = [])
    (c : Catalog) : (cfg.tools c).map (·.name) = c.names.map (cfg.toolPrefix ++ ·) := by
  rw [map_name_tools, ← map_name_offered, map_name_offered_of_allowed_eq_nil h]

namespace CommandLine

/-- Where the Makefile can be read, lines about its catalog are printed, and
nothing goes wrong. -/
theorem withCatalog_of_load {disk : Disk} {path makefile : Path} {c : Catalog}
    (hm : resolveMakefile disk path = .ok makefile)
    (hl : Catalog.load Catalog.defaultWindow disk makefile = .ok c)
    (lines : Path → Catalog → List String) :
    (withCatalog disk path lines).stdout = printed (lines makefile c) ∧
      (withCatalog disk path lines).exit = none ∧ (withCatalog disk path lines).crash = none := by
  obtain ⟨text, ht, -⟩ := Catalog.load_eq_ok_iff.1 hl
  obtain ⟨entry, he⟩ : ∃ entry, disk.lookup makefile = .ok (some entry) := by
    unfold Catalog.readText at ht
    cases hk : disk.lookup makefile with
    | error r => rw [hk] at ht; contradiction
    | ok entry =>
        cases entry with
        | none => rw [hk] at ht; contradiction
        | some entry => exact ⟨entry, rfl⟩
  simp only [withCatalog, withMakefile, hm, he, hl, and_self]

/-- Where the Makefile can be read, the `list` command prints the beginning of
tools' names and each target of the Makefile, on lines of their own. -/
theorem run_list {w : Surroundings} {call : Call} {makefile : Path} {window : Int}
    {c : Catalog} (hp : parse w.program w.arguments = .ok (some call)) (hv : call.verb = .list)
    (hm : resolveMakefile w.disk call.makefile = .ok makefile)
    (hl : Catalog.load window w.disk makefile = .ok c) :
    (run w).stdout = printed (c.names.map (call.settings.prefixText ++ ·)) ∧
      (run w).exit = none ∧ (run w).crash = none := by
  obtain ⟨text, ht, rfl⟩ := Catalog.load_eq_ok_iff.1 hl
  have hd : Catalog.load Catalog.defaultWindow w.disk makefile =
      .ok (Catalog.ofText Catalog.defaultWindow makefile text) :=
    Catalog.load_eq_ok_iff.2 ⟨text, ht, rfl⟩
  have hr : run w = call.ending w := by simp only [run, hp]
  have hc : call.ending w =
      withCatalog w.disk call.makefile fun _ => listLines call.settings.prefixText := by
    simp only [Call.ending, Call.path, hv]
  rw [hr, hc, Catalog.names_ofText_eq window Catalog.defaultWindow makefile makefile]
  exact withCatalog_of_load hm hd _

end CommandLine

/-- A dry server records a command for a call without arguments exactly if the
tool is one that is listed. -/
theorem Server.exists_recorded_call_nil_iff {s : Server} {disk : Disk} {c : Catalog}
    {succeeds : Bool} {output : String} (he : s.config.executor = .dry succeeds output)
    (ha : disk.Accessible s.config.makefile) (hc : s.config.refresh disk = .ok c) (tool : String) :
    (∃ command, (s.call disk tool []).1.recorded = s.recorded ++ [command]) ↔
      tool ∈ (s.config.tools c).map (·.name) := by
  rw [Config.mem_map_name_tools_iff]
  have hg : (∃ command, (s.call disk tool []).1.recorded = s.recorded ++ [command]) ↔
      ∃ target, Runnable s.config disk tool [] target :=
    @exists_recorded_call_iff s disk tool [] succeeds output he ha
  rw [hg]
  constructor
  · rintro ⟨target, h⟩
    exact ⟨target, h.named, (Config.mem_names_iff_declares hc target).2 h.declared,
      Config.isAllowed_iff.2 h.allowed⟩
  · rintro ⟨target, ht, hm, hallow⟩
    refine ⟨target, ?_⟩
    exact { named := ht
            declared := (Config.mem_names_iff_declares hc target).1 hm
            allowed := Config.isAllowed_iff.1 hallow
            settings := by simp
            rawArgs := by simp [givenRawArgs]
            closed := rfl }

/-! ## Agreement -/

/-- **Listing and calling agree**: where the Makefile can be looked up, listing
gives tools of distinct names, none if the Makefile cannot be read.  If it can,
the names are those of the declared and allowed targets in order of first
declaration, each tool is made of the first declaration of its name, and the
`list` command prints the same names if there is no allowlist.  A dry server
records a command for a call without arguments exactly if the tool is listed. -/
theorem listing_agrees {s : Server} {disk : Disk} (ha : disk.Accessible s.config.makefile) :
    ∃ tools, (s.list disk).2.answer = .ok tools ∧
      (tools.map (·.name)).Nodup ∧
      (∀ e, s.config.load disk = .error e → tools = []) ∧
      (∀ c, s.config.load disk = .ok c →
        tools.map (·.name) =
          ((c.targets.map (·.name)).eraseDups.filter s.config.isAllowed).map
            (s.config.toolPrefix ++ ·) ∧
        (∀ tool ∈ tools, ∃ before t after, c.targets = before ++ t :: after ∧
          (∀ u ∈ before, u.name ≠ t.name) ∧ tool.name = s.config.toolPrefix ++ t.name ∧
          tool.description = t.toolDescription ∧ tool.schema = .ofTarget t) ∧
        (s.config.allowed = [] → ∀ w call, w.disk = disk →
          CommandLine.parse w.program w.arguments = .ok (some call) → call.verb = .list →
          call.settings.prefixText = s.config.toolPrefix →
          CommandLine.resolveMakefile disk call.makefile = .ok s.config.makefile →
          (CommandLine.run w).stdout = CommandLine.printed (tools.map (·.name)) ∧
            (CommandLine.run w).exit = none ∧ (CommandLine.run w).crash = none)) ∧
      ∀ succeeds output, s.config.executor = .dry succeeds output → ∀ name,
        (∃ command, (s.call disk name []).1.recorded = s.recorded ++ [command]) ↔
          name ∈ tools.map (·.name) := by
  obtain ⟨c, hc⟩ := Config.exists_refresh_eq_ok ha
  refine ⟨s.config.tools c, ?_, Config.nodup_map_name_tools _ _, ?_, ?_,
    fun succeeds output he name => exists_recorded_call_nil_iff he ha hc name⟩
  · simp only [list, hc, Except.map]
  · intro e he
    rcases Config.refresh_eq_ok_iff.1 hc with hl | ⟨-, -, -, rfl⟩
    · rw [he] at hl
      contradiction
    · rfl
  · intro d hd
    obtain rfl : d = c := by
      rw [Config.refresh_eq_ok_iff.2 (.inl hd)] at hc
      exact Except.ok.inj hc
    refine ⟨Config.map_name_tools _ _, ?_, ?_⟩
    · intro tool htool
      obtain ⟨t, ht, rfl⟩ := List.mem_map.1 htool
      obtain ⟨-, before, after, happ, hb⟩ := Config.exists_eq_append_of_mem_offeredFrom ht
      exact ⟨before, t, after, happ, hb, rfl, rfl, rfl⟩
    · intro hallow w call hw hp hv hx hm
      subst hw
      rw [Config.map_name_tools_of_allowed_eq_nil hallow, ← hx]
      exact CommandLine.run_list hp hv hm hd

/-- A target that is declared twice is one tool, in its first place. -/
theorem listing_agrees_of_repeated_target :
    (Session.beside "b:\na: b\nb: x\n" []).disk.Accessible ⟨.relative, ["Makefile"]⟩ ∧
    ∃ tools, ((Session.beside "b:\na: b\nb: x\n" []).server.list
        (Session.beside "b:\na: b\nb: x\n" []).disk).2.answer = .ok tools ∧
      tools.map (·.name) = ["make_b", "make_a"] ∧
      (CommandLine.run
        { arguments := ["list"]
          disk := (Session.beside "b:\na: b\nb: x\n" []).disk }).stdout = "make_b\nmake_a\n" ∧
      ∃ command, ((Session.beside "b:\na: b\nb: x\n" []).server.call
        (Session.beside "b:\na: b\nb: x\n" []).disk "make_a" []).1.recorded = [] ++ [command] := by
  have ha : (Session.beside "b:\na: b\nb: x\n" []).disk.Accessible ⟨.relative, ["Makefile"]⟩ := by
    decide +kernel
  obtain ⟨tools, hlist, -, -, hload, hcall⟩ :=
    listing_agrees (s := (Session.beside "b:\na: b\nb: x\n" []).server) ha
  obtain ⟨c, hc, -⟩ : (Session.beside "b:\na: b\nb: x\n" []).server.config.Declares
      (Session.beside "b:\na: b\nb: x\n" []).disk "a" := by decide +kernel
  have hn : ((Session.beside "b:\na: b\nb: x\n" []).server.config.load
      (Session.beside "b:\na: b\nb: x\n" []).disk).toOption.map
        (fun c => (c.targets.map (·.name)).eraseDups) = some ["b", "a"] := by decide +kernel
  rw [hc] at hn
  have hnames : (c.targets.map (·.name)).eraseDups = ["b", "a"] := Option.some.inj hn
  obtain ⟨htools, -, hrun⟩ := hload c hc
  rw [hnames] at htools
  have hp : CommandLine.parse "mcp-make-targets" ["list"] =
      .ok (some ⟨.list, ⟨.relative, ["Makefile"]⟩, {}⟩) := by decide +kernel
  have hm : CommandLine.resolveMakefile (Session.beside "b:\na: b\nb: x\n" []).disk
      ⟨.relative, ["Makefile"]⟩ = .ok ⟨.relative, ["Makefile"]⟩ := by decide +kernel
  obtain ⟨hout, -, -⟩ := hrun rfl
    { arguments := ["list"]
      disk := (Session.beside "b:\na: b\nb: x\n" []).disk } _ rfl hp rfl rfl hm
  have hprefixed : tools.map (·.name) = ["make_b", "make_a"] := htools.trans (by decide)
  refine ⟨ha, tools, hlist, hprefixed, ?_, ?_⟩
  · rw [hout, hprefixed]
    decide
  · exact (hcall _ _ rfl "make_a").2 (by rw [hprefixed]; decide)

end MakeTools
