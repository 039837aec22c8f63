import Mathlib.Data.List.Sort
import Mathlib.Data.String.Basic
import MakeTools.Proofs.Gate
import MakeTools.Proofs.Mentions

/-!
# MakeTools.Proofs.Startup

What a server checks when it starts, and what it offers from then on.

Starting loads the Makefile and compares the allowlist with the names that are
declared there (`exists_answer_start_eq_ok_iff`).  Listing does not compare: it
leaves out what is not allowed.  The two agree all the same.  Behind a start
that succeeds, and as long as the Makefile reads the same, there is one tool
for each allowed name, in the order of declaration
(`perm_map_name_tools`, `sublist_map_name_tools`).

A start that fails because of the allowlist keeps the catalog that it loaded,
and tells the allowed names that are not declared, in order and each once.
-/

namespace MakeTools

open Server

/-! ## Names in order -/

theorem mem_sortedNames {names : List String} {name : String} :
    name ∈ sortedNames names ↔ name ∈ names := by
  rw [sortedNames, List.mem_mergeSort, List.mem_eraseDups]

/-- Sorted names ascend, so that none stands there twice. -/
theorem pairwise_lt_sortedNames (names : List String) :
    (sortedNames names).Pairwise (· < ·) := by
  have hsorted : (sortedNames names).Pairwise (· ≤ ·) := by
    refine (List.pairwise_mergeSort ?_ ?_ names.eraseDups).imp fun h => decide_eq_true_iff.1 h
    · intro a b c hab hbc
      exact decide_eq_true (String.le_trans (of_decide_eq_true hab) (of_decide_eq_true hbc))
    · intro a b
      rw [Bool.or_eq_true, decide_eq_true_iff, decide_eq_true_iff]
      exact String.le_total a b
  have hdistinct : (sortedNames names).Nodup :=
    (List.mergeSort_perm _ _).nodup_iff.2 (Recipe.nodup_eraseDups names)
  refine hsorted.imp₂ ?_ hdistinct
  intro a b hle hne
  exact String.not_le.1 fun hge => hne (String.le_antisymm hle hge)

theorem Catalog.nodup_names (c : Catalog) : c.names.Nodup := Recipe.nodup_eraseDups _

namespace Server

/-! ## The tools of a catalog that has every allowed name -/

namespace Config

variable {cfg : Config} {c : Catalog} {name : String}

theorem mem_undeclared_iff : name ∈ cfg.undeclared c ↔ name ∈ cfg.allowed ∧ name ∉ c.names := by
  simp [undeclared]

theorem undeclared_eq_nil_iff : cfg.undeclared c = [] ↔ ∀ n ∈ cfg.allowed, n ∈ c.names := by
  simp [undeclared, List.filter_eq_nil_iff]

/-- The names that are to be offered: those of the allowlist, each once, or all
that are declared if there is no allowlist. -/
def wanted (cfg : Config) (c : Catalog) : List String :=
  if cfg.allowed = [] then c.names else cfg.allowed.eraseDups

theorem mem_wanted_iff (h : ∀ n ∈ cfg.allowed, n ∈ c.names) :
    name ∈ cfg.wanted c ↔ name ∈ c.names ∧ cfg.isAllowed name = true := by
  rw [isAllowed_iff, wanted]
  split
  · next ha => simp [ha]
  · next ha =>
    rw [List.mem_eraseDups, or_iff_right ha]
    exact ⟨fun hm => ⟨h name hm, hm⟩, And.right⟩

/-- There is one tool for each of the wanted names. -/
theorem perm_map_name_tools (h : ∀ n ∈ cfg.allowed, n ∈ c.names) :
    ((cfg.tools c).map (·.name)).Perm ((cfg.wanted c).map (cfg.toolPrefix ++ ·)) := by
  have hwanted : (cfg.wanted c).Nodup := by
    unfold wanted
    split
    · exact c.nodup_names
    · exact Recipe.nodup_eraseDups _
  rw [map_name_tools]
  refine List.Perm.map _ ?_
  rw [List.perm_ext_iff_of_nodup (c.nodup_names.filter _) hwanted]
  intro n
  rw [List.mem_filter, mem_wanted_iff h]

/-- The tools stand in the order of first declaration. -/
theorem sublist_map_name_tools (cfg : Config) (c : Catalog) :
    ((cfg.tools c).map (·.name)).Sublist (c.names.map (cfg.toolPrefix ++ ·)) := by
  rw [map_name_tools]
  exact List.filter_sublist.map _

end Config

/-! ## Starting -/

variable {s : Server} {disk : Disk} {c : Catalog}

/-- A start that loads the Makefile keeps its catalog, whatever comes of the
allowlist. -/
theorem catalog_start (h : s.config.load disk = .ok c) :
    (s.start disk).1.catalog = some c := by
  simp only [start, h]

theorem answer_start_of_declared (h : s.config.load disk = .ok c)
    (hd : ∀ n ∈ s.config.allowed, n ∈ c.names) : (s.start disk).2.answer = .ok c.names := by
  simp only [start, h, Config.undeclared_eq_nil_iff.2 hd, List.isEmpty_nil, if_true]

theorem answer_start_of_undeclared (h : s.config.load disk = .ok c)
    (hd : ∃ n ∈ s.config.allowed, n ∉ c.names) :
    (s.start disk).2.answer = .error (.undeclared (s.config.undeclared c) c.names) := by
  obtain ⟨n, hn, hnot⟩ := hd
  have hne : ¬ (s.config.undeclared c).isEmpty = true := by
    rw [List.isEmpty_iff, Config.undeclared_eq_nil_iff]
    exact fun hall => hnot (hall n hn)
  simp only [start, h, if_neg hne]

/-- A server starts exactly if the Makefile is loaded and declares every allowed
name. -/
theorem exists_answer_start_eq_ok_iff :
    (∃ names, (s.start disk).2.answer = .ok names) ↔
      ∃ c, s.config.load disk = .ok c ∧ ∀ n ∈ s.config.allowed, n ∈ c.names := by
  constructor
  · rintro ⟨names, hn⟩
    cases hl : s.config.load disk with
    | error e =>
        simp only [start, hl] at hn
        contradiction
    | ok c =>
        refine ⟨c, rfl, fun n hm => ?_⟩
        by_contra hnot
        rw [answer_start_of_undeclared hl ⟨n, hm, hnot⟩] at hn
        contradiction
  · rintro ⟨c, hl, hd⟩
    exact ⟨c.names, answer_start_of_declared hl hd⟩

end Server

/-! ## Sessions -/

namespace Session

variable {s t : Session} {c : Catalog}

theorem answer_step_start_iff {result : Except StartProblem (List String)} :
    (s.step .start).2.answer = .started result ↔ (s.server.start s.disk).2.answer = result :=
  ⟨Answer.started.inj, congrArg Answer.started⟩

/-- A session starts exactly if the Makefile is loaded and declares every
allowed name. -/
theorem exists_started_iff :
    (∃ names, (s.step .start).2.answer = .started (.ok names)) ↔
      ∃ c, s.server.config.load s.disk = .ok c ∧ ∀ n ∈ s.server.config.allowed, n ∈ c.names := by
  simp only [answer_step_start_iff]
  exact exists_answer_start_eq_ok_iff

/-- Both listings have the tools of a catalog for as long as the Makefile reads
as it did when the catalog was loaded. -/
theorem answer_listings_of_agreesAt (hl : s.server.config.load s.disk = .ok c)
    (hconfig : t.server.config = s.server.config)
    (hdisk : t.disk.AgreesAt s.disk s.server.config.makefile) :
    (t.step .list).2.answer = .tools (.ok (s.server.config.tools c)) ∧
      (t.step .clientList).2.answer = .tools (.ok (s.server.config.tools c)) := by
  have hfresh : t.server.config.refresh t.disk = .ok c := by
    rw [hconfig, Config.refresh_eq_ok_iff, Config.load_eq_of_agreesAt hdisk]
    exact .inl hl
  rw [answer_step_list hfresh, answer_clientList hfresh, hconfig]
  exact ⟨rfl, rfl⟩

/-- **Startup and exposure agree**: a server starts exactly if the Makefile is
loaded and declares every name of the allowlist, if there is one.  Behind such a
start, whatever is done, as long as the Makefile reads the same both listings
have one tool for each allowed name, or for each declared name if there is no
allowlist, in the order of first declaration.  If the Makefile is loaded and an
allowed name is not declared, the server keeps the catalog, and the problem
tells these names and the declared ones, each in ascending order. -/
theorem startup_agrees (s : Session) :
    let cfg := s.server.config
    let started := s.step .start
    ((∃ names, started.2.answer = .started (.ok names)) ↔
      ∃ c, cfg.load s.disk = .ok c ∧ (cfg.allowed ≠ [] → ∀ n ∈ cfg.allowed, n ∈ c.names)) ∧
    (∀ names later, started.2.answer = .started (.ok names) →
      let now := (started.1.run later).1
      now.disk.AgreesAt s.disk cfg.makefile →
      ∃ c tools, cfg.load s.disk = .ok c ∧
        (now.step .list).2.answer = .tools (.ok tools) ∧
        (now.step .clientList).2.answer = .tools (.ok tools) ∧
        (tools.map (·.name)).Perm ((cfg.wanted c).map (cfg.toolPrefix ++ ·)) ∧
        (tools.map (·.name)).Sublist (c.names.map (cfg.toolPrefix ++ ·))) ∧
    ∀ c, cfg.load s.disk = .ok c → (∃ n ∈ cfg.allowed, n ∉ c.names) →
      started.1.server.catalog = some c ∧
      ∃ problem missing available, started.2.answer = .started (.error problem) ∧
        problem.message = "Allowed targets not found in Makefile: " ++ ", ".intercalate missing ++
          ". Available targets: " ++ ", ".intercalate available ∧
        (missing.Pairwise (· < ·) ∧ ∀ n, n ∈ missing ↔ n ∈ cfg.allowed ∧ n ∉ c.names) ∧
        available.Pairwise (· < ·) ∧ ∀ n, n ∈ available ↔ n ∈ c.names := by
  intro cfg started
  refine ⟨?_, ?_, ?_⟩
  · rw [exists_started_iff]
    refine exists_congr fun c => and_congr_right fun _ => ⟨fun h _ => h, fun h n hn => ?_⟩
    exact h (List.ne_nil_of_mem hn) n hn
  · intro names later hok now hdisk
    obtain ⟨c, hl, hd⟩ := exists_started_iff.1 ⟨names, hok⟩
    have hconfig : now.server.config = cfg := (config_run _ _).trans (config_step _ _)
    obtain ⟨hlist, hclient⟩ := answer_listings_of_agreesAt hl hconfig hdisk
    exact ⟨c, cfg.tools c, hl, hlist, hclient, Config.perm_map_name_tools hd,
      Config.sublist_map_name_tools cfg c⟩
  · intro c hl hd
    have hanswer : started.2.answer =
        .started (.error (.undeclared (cfg.undeclared c) c.names)) :=
      answer_step_start_iff.2 (answer_start_of_undeclared hl hd)
    refine ⟨catalog_start hl, _, sortedNames (cfg.undeclared c), sortedNames c.names, hanswer, rfl,
      ⟨pairwise_lt_sortedNames _, fun n => ?_⟩, pairwise_lt_sortedNames _, fun n => mem_sortedNames⟩
    rw [mem_sortedNames, Config.mem_undeclared_iff]

/-- Names that the allowlist repeats are one tool each, also behind a call and
another file; names that are not declared are told once and in order. -/
theorem startup_agrees_of_repeated_names :
    let s := Session.beside "b:\na: b\nb: x\n" ["a", "b", "a"]
    let later : List Step :=
      [.call "make_a" [], .change ⟨.relative, ["notes"]⟩ (.write "n".toUTF8.data.toList)]
    let now := ((s.step .start).1.run later).1
    let t := Session.beside "b:\na: b\nb: x\n" ["z", "b", "y", "z"]
    (s.step .start).2.answer = .started (.ok ["b", "a"]) ∧ now.disk ≠ s.disk ∧
      (∃ tools, (now.step .list).2.answer = .tools (.ok tools) ∧
        (tools.map (·.name)).Perm ["make_a", "make_b"]) ∧
      ∃ problem, (t.step .start).2.answer = .started (.error problem) ∧
        problem.message =
          "Allowed targets not found in Makefile: y, z. Available targets: a, b" := by
  intro s later now t
  let c := Catalog.ofText 4 ⟨.relative, ["Makefile"]⟩ "b:\na: b\nb: x\n"
  have hload : s.server.config.load s.disk = .ok c :=
    Catalog.load_eq_ok_iff.2 ⟨_, by decide +kernel, rfl⟩
  have hnames : c.names = ["b", "a"] := by decide +kernel
  have hstart : (s.step .start).2.answer = .started (.ok ["b", "a"]) := by
    rw [answer_step_start_iff, ← hnames]
    exact answer_start_of_declared hload (by decide +kernel)
  obtain ⟨-, hlist, -⟩ := startup_agrees s
  obtain ⟨-, -, hproblem⟩ := startup_agrees t
  refine ⟨hstart, by decide +kernel, ?_, ?_⟩
  · obtain ⟨d, tools, hd, htools, -, hperm, -⟩ :=
      hlist _ later hstart ⟨by decide +kernel, by decide +kernel⟩
    exact ⟨tools, htools, hperm⟩
  · obtain ⟨-, problem, missing, available, hanswer, htext, ⟨hm, hmissing⟩, ha, havailable⟩ :=
      hproblem c hload ⟨"z", by decide, by decide +kernel⟩
    have hyz : missing = ["y", "z"] := by
      refine hm.eq_of_mem_iff (by decide) fun n => ?_
      have hallowed : t.server.config.allowed = ["z", "b", "y", "z"] := rfl
      rw [hmissing, hnames, hallowed]
      grind
    have hab : available = ["a", "b"] := by
      refine ha.eq_of_mem_iff (by decide) fun n => ?_
      rw [havailable, hnames]
      simp [or_comm]
    rw [hyz, hab] at htext
    exact ⟨problem, hanswer, htext⟩

end Session
end MakeTools
