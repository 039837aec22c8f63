import MakeTools.Proofs.Hints
import MakeTools.Proofs.Listing
import MakeTools.Proofs.Loading
import MakeTools.Proofs.Variables

/-!
# MakeTools.Proofs.Previews

What `preview` prints, and which tools a server would list.

A block of lines is printed for a target.  It can be told from the block what
the target is called, how it is described, what it depends on, and which
variables it has (`targetLines_eq_iff`): the fifth character of a line says what
the line is about (`topic`), and the parts of a line can be told apart.

`preview` prints such a block for every declaration, in order.  A server lists
the first declaration of each name, so that blocks and tools correspond exactly
if no name is declared twice (`printed_report_offered_iff`): otherwise there are
more blocks than tools, and the printed text is longer.
-/

namespace MakeTools

open Text Line Server

/-! ## Declarations that are left out -/

namespace Server.Config

variable {cfg : Config} {c : Catalog}

theorem offeredFrom_sublist (cfg : Config) (seen : List String) (ts : List Target) :
    (cfg.offeredFrom seen ts).Sublist ts := by
  induction ts generalizing seen with
  | nil => exact .slnil
  | cons t ts ih =>
      rw [offeredFrom]
      split
      · exact (ih _).cons t
      · split
        · exact (ih _).cons_cons t
        · exact (ih _).cons t

/-- Declarations of distinct names, none of them seen before, are all
offered. -/
theorem offeredFrom_eq_self (ha : cfg.allowed = []) {seen : List String} {ts : List Target}
    (hs : ∀ t ∈ ts, t.name ∉ seen) (hn : (ts.map (·.name)).Nodup) :
    cfg.offeredFrom seen ts = ts := by
  induction ts generalizing seen with
  | nil => rfl
  | cons t ts ih =>
      obtain ⟨hm, hn⟩ := List.nodup_cons.1 hn
      obtain ⟨ht, hs⟩ := List.forall_mem_cons.1 hs
      have hlater : ∀ u ∈ ts, u.name ∉ t.name :: seen := by
        intro u hu hseen
        cases List.mem_cons.1 hseen with
        | inl he => exact hm (List.mem_map.2 ⟨u, hu, he⟩)
        | inr hseen => exact hs u hu hseen
      have hseen : ¬ seen.contains t.name = true := by simpa using ht
      rw [offeredFrom, if_neg hseen, if_pos (isAllowed_iff.2 (.inl ha)), ih hlater hn]

theorem offered_eq_targets_iff (ha : cfg.allowed = []) :
    cfg.offered c = c.targets ↔ (c.targets.map (·.name)).Nodup := by
  constructor
  · intro h
    rw [← h]
    exact nodup_map_name_offeredFrom cfg [] c.targets
  · intro h
    exact offeredFrom_eq_self ha (fun t _ => List.not_mem_nil) h

end Server.Config

/-! ## Blocks -/

/-- Two lists are the same part by part if the parts can be told apart. -/
theorem append_inj_of_forall {α : Type} {p : α → Prop} {as as' bs bs' : List α}
    (ha : ∀ a ∈ as, p a) (ha' : ∀ a ∈ as', p a) (hb : ∀ b ∈ bs, ¬ p b) (hb' : ∀ b ∈ bs', ¬ p b)
    (h : as ++ bs = as' ++ bs') : as = as' ∧ bs = bs' := by
  classical
  have hfilter : ∀ as bs : List α, (∀ a ∈ as, p a) → (∀ b ∈ bs, ¬ p b) →
      (as ++ bs).filter (p ·) = as := by
    intro as bs ha hb
    rw [List.filter_append, List.filter_eq_self.2 (by simpa using ha),
      List.filter_eq_nil_iff.2 (by simpa using hb), List.append_nil]
  have has : as = as' := by
    rw [← hfilter as bs ha hb, h, hfilter as' bs' ha' hb']
  rw [has] at h
  exact ⟨has, List.append_cancel_left h⟩

/-- What a block shows of a variable. -/
def Variable.shown (v : Variable) : String × Bool × Option String :=
  (v.name, v.required, v.default)

/-- A target whose parts can be told apart where they are printed. -/
structure Target.IsLegible (t : Target) : Prop where
  usageHint : t.usageHint ≠ some ""
  dependencies : ∀ d ∈ t.dependencies, ' ' ∉ d.toList
  mentions : ∀ v ∈ t.mentions, ' ' ∉ v.name.toList

theorem Line.IsWord.space_not_mem {name : String} (h : IsWord name) : ' ' ∉ name.toList :=
  fun hm => absurd (h.2 _ hm) (by decide)

/-- What is read from a text is legible. -/
theorem Catalog.isLegible_of_mem_targets {window : Int} {path : Path} {text : String} {t : Target}
    (h : t ∈ (ofText window path text).targets) : t.IsLegible where
  usageHint := by
    obtain ⟨s, -, hs⟩ := List.mem_filterMap.1 h
    intro hhint
    have habove := ((Target.recordedFrom_of_ofLine? hs).hinted "").1 hhint
    exact habove.exists_comment.1 rfl
  dependencies := by
    obtain ⟨s, -, hs⟩ := List.mem_filterMap.1 h
    obtain ⟨⟨name, dependencies⟩, hd, rfl⟩ := Option.map_eq_some_iff.1 hs
    obtain ⟨-, -, rest, -, rfl⟩ := declaration?_eq_some_iff.1 hd
    intro d hm hspace
    exact absurd (isBlank_eq_false_of_mem_fields hm _ hspace) (by decide)
  mentions := fun _ hv => (isWord_of_mem_mentions h hv).space_not_mem

namespace CommandLine

/-- The line about a usage hint, if there is one. -/
def hintLines : Option String → List String
  | none | some "" => []
  | some hint => ["    Usage: " ++ hint]

/-- The line about dependencies, if there are any. -/
def dependencyLines (dependencies : List String) : List String :=
  if dependencies.isEmpty then [] else ["    Depends on: " ++ ", ".intercalate dependencies]

/-- What is printed of a default behind the name of a variable. -/
def defaultText : Option String → String
  | some value => " (default: " ++ value ++ ")"
  | none => ""

theorem variableLine_eq (v : Variable) :
    variableLine v = "    " ++ (if v.required then "*" else " ") ++ " " ++
      (v.name ++ defaultText v.default) := by
  rw [variableLine, ← String.append_assoc]
  rfl

theorem targetLines_eq (toolPrefix : String) (t : Target) :
    targetLines toolPrefix t =
      ["", "  " ++ t.toolName toolPrefix, "    " ++ t.description] ++
        (hintLines t.usageHint ++ (dependencyLines t.dependencies ++
          t.mentions.map variableLine)) := by
  rw [targetLines, List.append_assoc, List.append_assoc]
  rfl

/-- The character that says what an indented line is about. -/
def topic (line : String) : Option Char := line.toList[4]?

theorem topic_hintLines {hint : Option String} : ∀ l ∈ hintLines hint, topic l = some 'U' := by
  unfold hintLines
  split <;> simp [topic]

theorem topic_dependencyLines {dependencies : List String} :
    ∀ l ∈ dependencyLines dependencies, topic l = some 'D' := by
  unfold dependencyLines
  split <;> simp [topic]

theorem topic_variableLine (v : Variable) :
    topic (variableLine v) = some (if v.required then '*' else ' ') := by
  rw [variableLine_eq]
  cases v.required <;> simp [topic]

theorem hintLines_inj {hint hint' : Option String} (h : hint ≠ some "") (h' : hint' ≠ some "") :
    hintLines hint = hintLines hint' ↔ hint = hint' := by
  cases hint <;> cases hint' <;> simp_all [hintLines]

theorem dependencyLines_inj {ds ds' : List String} (h : ∀ d ∈ ds, ' ' ∉ d.toList)
    (h' : ∀ d ∈ ds', ' ' ∉ d.toList) :
    dependencyLines ds = dependencyLines ds' ↔ ds = ds' := by
  cases ds with
  | nil => cases ds' <;> simp [dependencyLines]
  | cons d ds =>
      cases ds' with
      | nil => simp [dependencyLines]
      | cons d' ds' =>
          rw [← intercalate_comma_inj h h' (List.cons_ne_nil _ _) (List.cons_ne_nil _ _)]
          simp [dependencyLines]

theorem toList_defaultText (value : String) :
    (defaultText (some value)).toList = ' ' :: ("(default: ".toList ++ (value.toList ++ [')'])) := by
  simp [defaultText]

/-- A name and the default behind it can be told apart. -/
theorem name_default_inj {name name' : String} {default default' : Option String}
    (h : ' ' ∉ name.toList) (h' : ' ' ∉ name'.toList) :
    name ++ defaultText default = name' ++ defaultText default' ↔
      name = name' ∧ default = default' := by
  refine ⟨fun he => ?_, fun he => by rw [he.1, he.2]⟩
  have hlist := congrArg String.toList he
  rw [String.toList_append, String.toList_append] at hlist
  cases default with
  | none =>
      cases default' with
      | none => simpa [defaultText] using he
      | some value' =>
          rw [toList_defaultText] at hlist
          have hm : ' ' ∈ name.toList ++ (defaultText none).toList := by simp [hlist]
          exact absurd (by simpa [defaultText] using hm) h
  | some value =>
      rw [toList_defaultText] at hlist
      cases default' with
      | none =>
          have hm : ' ' ∈ name'.toList ++ (defaultText none).toList := by simp [← hlist]
          exact absurd (by simpa [defaultText] using hm) h'
      | some value' =>
          rw [toList_defaultText] at hlist
          obtain ⟨hname, hrest⟩ := append_cons_inj h h' hlist
          have hvalue := List.append_cancel_right (List.append_cancel_left hrest)
          rw [String.toList_injective hname, String.toList_injective hvalue]
          exact ⟨rfl, rfl⟩

theorem variableLine_inj {v w : Variable} (hv : ' ' ∉ v.name.toList) (hw : ' ' ∉ w.name.toList) :
    variableLine v = variableLine w ↔ v.shown = w.shown := by
  have hmark : variableLine v = variableLine w → v.required = w.required := by
    intro h
    have ht := congrArg topic h
    rw [topic_variableLine, topic_variableLine] at ht
    cases hr : v.required <;> cases hs : w.required <;> simp_all
  have hshown : v.shown = w.shown ↔
      v.required = w.required ∧ v.name = w.name ∧ v.default = w.default := by
    simp only [Variable.shown, Prod.mk.injEq]
    tauto
  rw [hshown, ← name_default_inj hv hw]
  constructor
  · intro h
    have hr := hmark h
    rw [variableLine_eq, variableLine_eq, hr] at h
    exact ⟨hr, (String.append_right_inj _).1 h⟩
  · intro h
    rw [variableLine_eq, variableLine_eq, h.1, h.2]

theorem map_variableLine_inj {vs ws : List Variable} (hv : ∀ v ∈ vs, ' ' ∉ v.name.toList)
    (hw : ∀ w ∈ ws, ' ' ∉ w.name.toList) :
    vs.map variableLine = ws.map variableLine ↔ vs.map Variable.shown = ws.map Variable.shown := by
  induction vs generalizing ws with
  | nil => cases ws <;> simp
  | cons v vs ih =>
      cases ws with
      | nil => simp
      | cons w ws =>
          obtain ⟨hv, hvs⟩ := List.forall_mem_cons.1 hv
          obtain ⟨hw, hws⟩ := List.forall_mem_cons.1 hw
          simp only [List.map_cons, List.cons.injEq, variableLine_inj hv hw, ih hvs hws]

/-- A block tells the target that it is printed for, as far as it is shown. -/
theorem targetLines_eq_iff (toolPrefix : String) {t u : Target} (ht : t.IsLegible)
    (hu : u.IsLegible) :
    targetLines toolPrefix t = targetLines toolPrefix u ↔
      t.name = u.name ∧ t.description = u.description ∧ t.usageHint = u.usageHint ∧
        t.dependencies = u.dependencies ∧
        t.mentions.map Variable.shown = u.mentions.map Variable.shown := by
  rw [← hintLines_inj ht.usageHint hu.usageHint,
    ← dependencyLines_inj ht.dependencies hu.dependencies,
    ← map_variableLine_inj ht.mentions hu.mentions, targetLines_eq, targetLines_eq]
  constructor
  · intro h
    obtain ⟨hhead, hrest⟩ := List.append_inj h rfl
    obtain ⟨hname, hdescription⟩ : t.name = u.name ∧ t.description = u.description := by
      simpa [Target.toolName] using hhead
    -- hints come first, dependencies next, and no variable has a line of either kind
    have hvars : ∀ vs : List Variable, ∀ l ∈ vs.map variableLine,
        topic l ≠ some 'U' ∧ topic l ≠ some 'D' := by
      intro vs l hl
      obtain ⟨v, -, rfl⟩ := List.mem_map.1 hl
      rw [topic_variableLine]
      cases v.required <;> decide
    have hnohint : ∀ (ds : List String) (vs : List Variable),
        ∀ l ∈ dependencyLines ds ++ vs.map variableLine, topic l ≠ some 'U' := by
      intro ds vs l hl
      cases List.mem_append.1 hl with
      | inl hl => simp [topic_dependencyLines l hl]
      | inr hl => exact (hvars vs l hl).1
    obtain ⟨hhint, hrest⟩ := append_inj_of_forall topic_hintLines topic_hintLines
      (hnohint _ _) (hnohint _ _) hrest
    obtain ⟨hdeps, hmentions⟩ := append_inj_of_forall topic_dependencyLines topic_dependencyLines
      (fun l hl => (hvars _ l hl).2) (fun l hl => (hvars _ l hl).2) hrest
    exact ⟨hname, hdescription, hhint, hdeps, hmentions⟩
  · intro h
    obtain ⟨hname, hdescription, hhint, hdeps, hmentions⟩ := h
    rw [Target.toolName, Target.toolName, hname, hdescription, hhint, hdeps, hmentions]

/-! ## What is printed -/

theorem printed_cons (l : String) (ls : List String) :
    printed (l :: ls) = l ++ "\n" ++ printed ls := by
  cases ls <;> simp [printed]

theorem printed_append (ls ms : List String) : printed (ls ++ ms) = printed ls ++ printed ms := by
  induction ls with
  | nil => simp [printed]
  | cons l ls ih => rw [List.cons_append, printed_cons, printed_cons, ih, ← String.append_assoc]

/-- A line is longer than nothing by its line feed. -/
theorem length_printed_cons (l : String) (ls : List String) :
    (printed (l :: ls)).length = l.length + 1 + (printed ls).length := by
  rw [printed_cons, String.length_append, String.length_append]
  rfl

/-- The lines in front of all blocks. -/
def opening (makefile : Path) (c : Catalog) : List String :=
  ["Makefile: " ++ toString makefile,
    "Total targets: " ++ toString c.targets.length,
    "Global variables: " ++ toString c.assigned.length, ""]

/-- The lines behind all blocks. -/
def closing : List String :=
  ["", String.ofList (List.replicate 70 '='),
    "Variables marked * are required. Every tool also accepts raw 'args'.", ""]

/-- The lines in place of blocks. -/
def noBlocks : List String := ["No targets would be exposed as MCP tools."]

/-- What `preview` prints if these are the targets to be shown. -/
def report (toolPrefix : String) (makefile : Path) (c : Catalog) (shown : List Target) :
    List String :=
  opening makefile c ++
    if shown = [] then noBlocks else shown.flatMap (targetLines toolPrefix) ++ closing

/-- All declarations are shown. -/
theorem previewLines_eq (toolPrefix : String) (makefile : Path) (c : Catalog) :
    previewLines toolPrefix makefile c = report toolPrefix makefile c c.targets := by
  simp only [previewLines, report, List.isEmpty_iff]
  rfl

/-- Fewer blocks are fewer characters. -/
theorem length_blocks_lt (toolPrefix : String) {ts us : List Target} (h : ts.Sublist us)
    (hne : ts ≠ us) :
    (printed (ts.flatMap (targetLines toolPrefix))).length <
      (printed (us.flatMap (targetLines toolPrefix))).length := by
  have hblock : ∀ t, 0 < (printed (targetLines toolPrefix t)).length := by
    intro t
    rw [targetLines_eq, List.cons_append, length_printed_cons]
    omega
  induction h with
  | slnil => exact absurd rfl hne
  | @cons ts us u h ih =>
      rw [List.flatMap_cons, printed_append, String.length_append]
      have hu := hblock u
      by_cases he : ts = us
      · rw [he]
        omega
      · have hrest := ih he
        omega
  | cons_cons t h ih =>
      have hrest := ih fun he => hne (by rw [he])
      rw [List.flatMap_cons, List.flatMap_cons, printed_append, printed_append,
        String.length_append, String.length_append]
      omega

theorem length_noBlocks_lt : (printed noBlocks).length < (printed closing).length := by
  have hnone : "No targets would be exposed as MCP tools.".length = 41 := by decide +kernel
  simp only [noBlocks, closing, length_printed_cons, String.length_ofList, List.length_replicate,
    hnone]
  omega

/-- A report that leaves targets out is shorter. -/
theorem printed_report_eq_iff (toolPrefix : String) (makefile : Path) (c : Catalog)
    {ts us : List Target} (h : ts.Sublist us) :
    printed (report toolPrefix makefile c ts) = printed (report toolPrefix makefile c us) ↔
      ts = us := by
  refine ⟨fun he => ?_, fun he => by rw [he]⟩
  by_contra hne
  have hus : us ≠ [] := by
    rintro rfl
    exact hne (List.sublist_nil.1 h)
  have hlt := length_blocks_lt toolPrefix h hne
  have hclosing := length_noBlocks_lt
  have hlen := congrArg String.length he
  rw [report, report, printed_append, printed_append, if_neg hus, printed_append,
    String.length_append, String.length_append, String.length_append] at hlen
  split at hlen
  · omega
  · rw [printed_append, String.length_append] at hlen
    omega

/-- The blocks of the tools that are listed without an allowlist are all blocks
exactly if no name is declared twice. -/
theorem printed_report_offered_iff {cfg : Config} (ha : cfg.allowed = []) (toolPrefix : String)
    (makefile : Path) (c : Catalog) :
    printed (report toolPrefix makefile c c.targets) =
        printed (report toolPrefix makefile c (cfg.offered c)) ↔
      (c.targets.map (·.name)).Nodup := by
  have hsub : (cfg.offered c).Sublist c.targets := Config.offeredFrom_sublist cfg [] c.targets
  rw [eq_comm, printed_report_eq_iff _ _ _ hsub, Config.offered_eq_targets_iff ha]

/-- Where the Makefile can be read, `preview` reports on every declaration. -/
theorem run_preview {w : Surroundings} {call : Call} {makefile : Path} {c : Catalog}
    (hp : parse w.program w.arguments = .ok (some call)) (hv : call.verb = .preview)
    (hm : resolveMakefile w.disk call.makefile = .ok makefile)
    (hl : Catalog.load Catalog.defaultWindow w.disk makefile = .ok c) :
    (run w).stdout = printed (report call.settings.prefixText makefile c c.targets) ∧
      (run w).exit = none ∧ (run w).crash = none := by
  have hr : run w = withCatalog w.disk call.makefile (previewLines call.settings.prefixText) := by
    simp only [run, hp, Call.ending, Call.path, hv]
  rw [hr, ← previewLines_eq]
  exact withCatalog_of_load hm hl _

/-! ## Blocks and tools -/

/-- **Blocks and tools**: where the Makefile can be read, `preview` prints a
block for each declaration, and a server with the same beginning of tools' names
and no allowlist lists a tool for the first declaration of each name.  The
printed text is that with one block for each tool exactly if no name is declared
twice.  A block tells the name, the description, the usage hint, the
dependencies, and of each variable the name, the default, and whether it is
required. -/
theorem preview_shows_tools_iff {w : Surroundings} {call : Call} {makefile : Path} {c : Catalog}
    (hp : parse w.program w.arguments = .ok (some call)) (hv : call.verb = .preview)
    (hm : resolveMakefile w.disk call.makefile = .ok makefile)
    (hl : Catalog.load Catalog.defaultWindow w.disk makefile = .ok c) {s : Server}
    (hs : s.config.makefile = makefile) (hw : s.config.window = Catalog.defaultWindow)
    (hx : s.config.toolPrefix = call.settings.prefixText) (ha : s.config.allowed = []) :
    (run w).exit = none ∧ (run w).crash = none ∧
      (run w).stdout = printed (report s.config.toolPrefix makefile c c.targets) ∧
      (∃ listed, (s.list w.disk).2.answer = .ok (listed.map (Tool.ofTarget s.config.toolPrefix)) ∧
        listed.Sublist c.targets ∧ listed.map (·.name) = c.names ∧
        (∀ t ∈ listed, c.find? t.name = some t) ∧
        ((run w).stdout = printed (report s.config.toolPrefix makefile c listed) ↔
          (c.targets.map (·.name)).Nodup)) ∧
      ∀ t ∈ c.targets, ∀ u : Target, u.IsLegible →
        (targetLines s.config.toolPrefix t = targetLines s.config.toolPrefix u ↔
          t.name = u.name ∧ t.description = u.description ∧ t.usageHint = u.usageHint ∧
            t.dependencies = u.dependencies ∧
            t.mentions.map Variable.shown = u.mentions.map Variable.shown) := by
  obtain ⟨hout, hexit, hcrash⟩ := run_preview hp hv hm hl
  rw [← hx] at hout
  have hload : s.config.load w.disk = .ok c := by
    rw [Config.load, hs, hw]
    exact hl
  have hanswer : (s.list w.disk).2.answer = .ok (s.config.tools c) := answer_list_of_load hload
  refine ⟨hexit, hcrash, hout, ⟨s.config.offered c, hanswer, Config.offeredFrom_sublist _ _ _,
    Config.map_name_offered_of_allowed_eq_nil ha c, fun t ht => Config.find?_of_mem_offered ht,
    ?_⟩, ?_⟩
  · rw [hout]
    exact printed_report_offered_iff ha _ _ _
  · intro t ht u hu
    obtain ⟨text, -, rfl⟩ := Catalog.load_eq_ok_iff.1 hl
    exact targetLines_eq_iff _ (Catalog.isLegible_of_mem_targets ht) hu

/-- The program is run to preview the tools of a Makefile with this text. -/
def Surroundings.previewing (text : String) : Surroundings where
  arguments := ["preview"]
  disk := (Session.beside text []).disk

/-- What the arguments for a preview are read as. -/
def Call.previewing : Call := ⟨.preview, ⟨.relative, ["Makefile"]⟩, {}⟩

theorem parse_previewing (text : String) :
    parse (Surroundings.previewing text).program (Surroundings.previewing text).arguments =
      .ok (some .previewing) := by
  have h : parse "mcp-make-targets" ["preview"] = .ok (some .previewing) := by decide +kernel
  exact h

/-- Two declarations with a hint, a dependency and a variable: one block for
each tool. -/
theorem preview_shows_tools_of_distinct_names :
    let text := "# Usage: make all X=1\nall: clean\n\t$(X)\nclean:\n"
    let makefile : Path := ⟨.relative, ["Makefile"]⟩
    let c := Catalog.ofText Catalog.defaultWindow makefile text
    Catalog.load Catalog.defaultWindow (Surroundings.previewing text).disk makefile = .ok c ∧
      ∃ listed, ((Session.beside text []).server.list (Surroundings.previewing text).disk).2.answer =
          .ok (listed.map (Tool.ofTarget "make_")) ∧
        listed.map (·.name) = ["all", "clean"] ∧
        (run (.previewing text)).stdout = printed (report "make_" makefile c listed) := by
  intro text makefile c
  have hm : resolveMakefile (Surroundings.previewing text).disk Call.previewing.makefile =
      .ok makefile := by decide +kernel
  have hl : Catalog.load Catalog.defaultWindow (Surroundings.previewing text).disk makefile =
      .ok c := Catalog.load_eq_ok_iff.2 ⟨text, by decide +kernel, rfl⟩
  obtain ⟨-, -, -, ⟨listed, hanswer, -, hnames, -, hout⟩, -⟩ :=
    preview_shows_tools_iff (parse_previewing text) rfl hm hl
      (s := (Session.beside text []).server) rfl rfl (by decide) rfl
  have hc : c.names = ["all", "clean"] := by decide +kernel
  have hn : (c.targets.map (·.name)).Nodup := by decide +kernel
  exact ⟨hl, listed, hanswer, hnames.trans hc, hout.2 hn⟩

/-- A target that is declared twice has two blocks, and one tool. -/
theorem exists_block_without_tool :
    ¬ ∀ (w : Surroundings) (call : Call) (makefile : Path) (c : Catalog) (s : Server),
      parse w.program w.arguments = .ok (some call) → call.verb = .preview →
      resolveMakefile w.disk call.makefile = .ok makefile →
      Catalog.load Catalog.defaultWindow w.disk makefile = .ok c →
      s.config.makefile = makefile → s.config.window = Catalog.defaultWindow →
      s.config.toolPrefix = call.settings.prefixText → s.config.allowed = [] →
      ∃ listed : List Target, listed.Sublist c.targets ∧
        (s.list w.disk).2.answer = .ok (listed.map (Tool.ofTarget s.config.toolPrefix)) ∧
        (run w).stdout = printed (report s.config.toolPrefix makefile c listed) := by
  intro h
  let text := "build:\nbuild: x\n"
  let makefile : Path := ⟨.relative, ["Makefile"]⟩
  let c := Catalog.ofText Catalog.defaultWindow makefile text
  have hm : resolveMakefile (Surroundings.previewing text).disk Call.previewing.makefile =
      .ok makefile := by decide +kernel
  have hl : Catalog.load Catalog.defaultWindow (Surroundings.previewing text).disk makefile =
      .ok c := Catalog.load_eq_ok_iff.2 ⟨text, by decide +kernel, rfl⟩
  obtain ⟨listed, hsub, hanswer, hout⟩ := h (.previewing text) .previewing makefile c
    (Session.beside text []).server (parse_previewing text) rfl hm hl rfl rfl (by decide) rfl
  obtain ⟨hreport, -, -⟩ := run_preview (parse_previewing text) rfl hm hl
  have hall : listed = c.targets :=
    (printed_report_eq_iff _ _ _ hsub).1 (hout.symm.trans hreport)
  have hblocks : listed.length = 2 := by
    rw [hall]
    decide +kernel
  have htools : ((Session.beside text []).server.list
      (Surroundings.previewing text).disk).2.answer.toOption.map List.length = some 1 := by
    decide +kernel
  rw [hanswer] at htools
  simp [Except.toOption, hblocks] at htools

end CommandLine

end MakeTools
