import MakeTools.Proofs.Names
import MakeTools.Proofs.Words
import MakeTools.Proofs.Writing
import MakeTools.Session

/-!
# MakeTools.Proofs.Acceptance

Which calls come to a run.

A call is checked in sequence: the beginning of the tool's name, the Makefile
as it stands, the allowlist, and then everything that a command is built from.
Each check is inverted by one lemma, and together they say when a request comes
of a call (`accept_eq_ok_iff`).  For arguments that are texts or null,
`Runnable` lists the conditions without reference to the order of the checks:
a dry server records one command, of a fixed shape, exactly if they hold.
-/

namespace MakeTools

open Text Line Command Server

/-! ## Checks of a command -/

namespace Command

/-- A text is safe exactly if it holds none of the blocked characters. -/
theorem isDangerous_eq_false_iff {s : String} :
    isDangerous s = false ↔ ∀ c ∈ s.toList, isBlocked c = false := by
  simp [isDangerous, List.any_eq_false]

/-- A variable passes exactly if its name fits and its value is safe. -/
theorem checkVariable_eq_ok_iff {name value : String} :
    checkVariable name value = .ok () ↔
      anchored isVariableName name.toList = true ∧ ∀ c ∈ value.toList, isBlocked c = false := by
  rw [← isDangerous_eq_false_iff]
  unfold checkVariable
  cases anchored isVariableName name.toList <;> cases isDangerous value <;> simp

theorem checkRawArgs_eq_ok_iff {rawArgs : String} :
    checkRawArgs rawArgs = .ok () ↔ ∀ c ∈ rawArgs.toList, isBlocked c = false := by
  rw [← isDangerous_eq_false_iff]
  unfold checkRawArgs
  cases isDangerous rawArgs <;> simp

theorem rawWords_eq_ok_iff {rawArgs : String} {words : List String} :
    rawWords rawArgs = .ok words ↔ Shell.words rawArgs = some words := by
  unfold rawWords
  cases Shell.words rawArgs <;> simp

/-- For a target's name, a command comes of variables that all pass and of raw
arguments that are safe and split into words, and then it has this shape. -/
theorem build_eq_ok_iff_of_isTargetName {target : String} {makefile : Path}
    {settings : List (String × String)} {rawArgs : String} {command : List String}
    (h : isTargetName target.toList = true) :
    build target makefile settings rawArgs = .ok command ↔
      (∀ v ∈ settings, anchored isVariableName v.1.toList = true ∧
        ∀ c ∈ v.2.toList, isBlocked c = false) ∧
      (∀ c ∈ rawArgs.toList, isBlocked c = false) ∧
      ∃ words, Shell.words rawArgs = some words ∧
        command = ["make", "-f", toString makefile, target] ++ settings.map assignmentWord
          ++ words := by
  rw [build_eq_ok_iff, checkVariables_eq_ok_iff, checkRawArgs_eq_ok_iff]
  simp only [checkTarget_of_isTargetName h, true_and, checkVariable_eq_ok_iff, rawWords_eq_ok_iff]

end Command

/-! ## The Makefile as it stands -/

/-- The system looks the path up, whatever stands there. -/
def Disk.Accessible (disk : Disk) (path : Path) : Prop := ∃ entry, disk.lookup path = .ok entry

instance (disk : Disk) (path : Path) : Decidable (disk.Accessible path) :=
  decidable_of_iff ((disk.lookup path).isOk = true) (by
    unfold Disk.Accessible
    cases disk.lookup path <;> simp [Except.isOk, Except.toBool])

/-- Loading is refused exactly if the look-up of the path is: no later trouble
with the file counts as a refusal. -/
theorem Catalog.load_eq_refused_iff {window : Int} {disk : Disk} {path : Path}
    {r : Disk.Refusal} :
    load window disk path = .error (.refused r) ↔ disk.lookup path = .error r := by
  unfold load readText
  cases disk.lookup path with
  | error e => simp [Except.map]
  | ok entry =>
      rcases entry with _ | bytes | _
      · simp [Except.map]
      · cases hb : readBytes (disk.faultAt? path) bytes <;> simp [Except.map, Except.mapError, hb]
      · simp [Except.map]

namespace Server.Config

/-- A server without an allowlist allows every target, any other those on the
list. -/
theorem isAllowed_iff {cfg : Config} {target : String} :
    cfg.isAllowed target = true ↔ cfg.allowed = [] ∨ target ∈ cfg.allowed := by
  simp [isAllowed]

/-- The Makefile as it stands can be read and declares the target. -/
def Declares (cfg : Config) (disk : Disk) (target : String) : Prop :=
  ∃ c, cfg.load disk = .ok c ∧ target ∈ c.names

instance (cfg : Config) (disk : Disk) (target : String) : Decidable (cfg.Declares disk target) :=
  decidable_of_iff ((cfg.load disk).toOption.any (fun c => c.names.contains target) = true) (by
    unfold Declares
    cases cfg.load disk <;> simp [Except.toOption])

/-- What a Makefile declares is a target's name. -/
theorem Declares.isTargetName {cfg : Config} {disk : Disk} {target : String}
    (h : cfg.Declares disk target) : isTargetName target.toList = true := by
  obtain ⟨c, hc, hm⟩ := h
  exact Catalog.isTargetName_of_load hc hm

/-- The catalog to go on with is the one that was loaded, or an empty one if the
Makefile is missing or cannot be read. -/
theorem refresh_eq_ok_iff {cfg : Config} {disk : Disk} {c : Catalog} :
    cfg.refresh disk = .ok c ↔
      cfg.load disk = .ok c ∨
        ∃ e, cfg.load disk = .error e ∧ (∀ r, e ≠ .refused r) ∧ c = { path := cfg.makefile } := by
  unfold refresh
  cases cfg.load disk with
  | ok d => simp [settle]
  | error e => cases e <;> simp [settle, eq_comm]

theorem exists_refresh_eq_ok {cfg : Config} {disk : Disk} (h : disk.Accessible cfg.makefile) :
    ∃ c, cfg.refresh disk = .ok c := by
  obtain ⟨entry, he⟩ := h
  cases hl : cfg.load disk with
  | ok c => exact ⟨c, refresh_eq_ok_iff.2 (.inl hl)⟩
  | error e =>
      have hr : ∀ r, e ≠ .refused r := by
        rintro r rfl
        rw [load, Catalog.load_eq_refused_iff, he] at hl
        contradiction
      exact ⟨_, refresh_eq_ok_iff.2 (.inr ⟨e, hl, hr, rfl⟩)⟩

/-- The catalog to go on with has the names that the Makefile declares, and no
others: a Makefile that cannot be read gives none. -/
theorem mem_names_iff_declares {cfg : Config} {disk : Disk} {c : Catalog}
    (h : cfg.refresh disk = .ok c) (target : String) :
    target ∈ c.names ↔ cfg.Declares disk target := by
  unfold Declares
  rcases refresh_eq_ok_iff.1 h with hl | ⟨e, hl, -, rfl⟩
  · simp [hl]
  · simp [hl, Catalog.names]

/-! ## Checks of a call -/

/-- A tool runs the target behind the beginning that all tools share. -/
theorem targetOf?_eq_some_iff {cfg : Config} {tool target : String} :
    cfg.targetOf? tool = some target ↔ tool = cfg.toolPrefix ++ target := by
  unfold targetOf?
  rw [Option.map_eq_some_iff]
  constructor
  · rintro ⟨rest, hr, rfl⟩
    apply String.toList_injective
    rw [isPrefixOf?_eq_some_iff.1 hr, String.toList_append, String.toList_ofList]
  · rintro rfl
    refine ⟨target.toList, ?_, String.ofList_toList⟩
    rw [isPrefixOf?_eq_some_iff, String.toList_append]

/-- A request comes of a target that the catalog has and that is allowed, and
of arguments that can be written and that a command comes of. -/
theorem check_eq_ok_iff {cfg : Config} {c : Catalog} {target : String}
    {arguments : List (String × Value)} {r : Request} :
    cfg.check c target arguments = .ok r ↔
      target ∈ c.names ∧ cfg.isAllowed target = true ∧ Writable cfg.room arguments ∧
      (∃ command, build target cfg.makefile (collect arguments).1 (collect arguments).2 =
        .ok command) ∧ cfg.request target (collect arguments) = r := by
  rw [← Catalog.isSome_find?]
  unfold check
  cases c.find? target with
  | none => simp
  | some t =>
      cases cfg.isAllowed target with
      | false => simp
      | true =>
          cases hw : writeArguments cfg.room arguments with
          | error u => simp [not_writable_of_writeArguments_eq_error hw]
          | ok given =>
              obtain ⟨hwritable, rfl⟩ := writeArguments_eq_ok_iff.1 hw
              cases hb : build target cfg.makefile (collect arguments).1 (collect arguments).2 <;>
                simp [hwritable, request, hb]

/-- A call comes to a run exactly if it names a declared and allowed target
and its arguments can be written and a command comes of them. -/
theorem accept_eq_ok_iff {cfg : Config} {disk : Disk} {tool : String}
    {arguments : List (String × Value)} {r : Request} :
    cfg.accept disk tool arguments = .ok r ↔
      ∃ target, tool = cfg.toolPrefix ++ target ∧ cfg.Declares disk target ∧
      cfg.isAllowed target = true ∧ Writable cfg.room arguments ∧
      (∃ command, build target cfg.makefile (collect arguments).1 (collect arguments).2 =
        .ok command) ∧ cfg.request target (collect arguments) = r := by
  unfold accept
  constructor
  · intro h
    split at h
    · contradiction
    · next target ht =>
      split at h
      · contradiction
      · next c hc =>
        obtain ⟨hm, hrest⟩ := check_eq_ok_iff.1 h
        exact ⟨target, targetOf?_eq_some_iff.1 ht, (mem_names_iff_declares hc target).1 hm, hrest⟩
  · rintro ⟨target, ht, ⟨c, hc, hm⟩, hrest⟩
    rw [targetOf?_eq_some_iff.2 ht]
    simp only [refresh_eq_ok_iff.2 (.inl hc)]
    exact check_eq_ok_iff.2 ⟨hm, hrest⟩

/-- If the Makefile can be looked up and the arguments can be written, what
stands against a call is a rejection. -/
theorem eq_rejected_of_accept_eq_error {cfg : Config} {disk : Disk} {tool : String}
    {arguments : List (String × Value)} {o : Obstacle} (ha : disk.Accessible cfg.makefile)
    (hw : Writable cfg.room arguments) (h : cfg.accept disk tool arguments = .error o) :
    ∃ r, o = .rejected r := by
  unfold accept at h
  split at h
  · exact ⟨_, (Except.error.inj h).symm⟩
  · next target ht =>
    obtain ⟨c, hc⟩ := exists_refresh_eq_ok ha
    simp only [hc, check, writeArguments_eq_ok_iff.2 ⟨hw, rfl⟩] at h
    split at h
    · exact ⟨_, (Except.error.inj h).symm⟩
    · split at h
      · exact ⟨_, (Except.error.inj h).symm⟩
      · split at h
        · exact ⟨_, (Except.error.inj h).symm⟩
        · contradiction

end Server.Config

/-! ## Answers to calls -/

namespace Server

@[simp] theorem config_keep (s : Server) (fresh : Except Disk.Refusal Catalog) :
    (s.keep fresh).config = s.config := by
  cases fresh <;> rfl

@[simp] theorem recorded_keep (s : Server) (fresh : Except Disk.Refusal Catalog) :
    (s.keep fresh).recorded = s.recorded := by
  cases fresh <;> rfl

@[simp] theorem config_afterLookup (s : Server) (disk : Disk) (tool : String) :
    (s.afterLookup disk tool).config = s.config := by
  unfold afterLookup
  cases s.config.targetOf? tool <;> simp

@[simp] theorem recorded_afterLookup (s : Server) (disk : Disk) (tool : String) :
    (s.afterLookup disk tool).recorded = s.recorded := by
  unfold afterLookup
  cases s.config.targetOf? tool <;> simp

/-- A call that something stands against adds nothing to the record, asks
nothing of the system, and is answered by what stands against it. -/
theorem call_of_accept_eq_error {s : Server} {disk : Disk} {tool : String}
    {arguments : List (String × Value)} {o : Obstacle}
    (h : s.config.accept disk tool arguments = .error o) :
    (s.call disk tool arguments).1.recorded = s.recorded ∧
      (s.call disk tool arguments).2.events = [] ∧
      (s.call disk tool arguments).2.answer = Config.obstacleText o := by
  simp only [call, h, recorded_afterLookup, and_self]

/-- A call that comes to a run adds what the run records, asks what the run
asks of the system, and is answered by the report on the run. -/
theorem call_of_accept_eq_ok {s : Server} {disk : Disk} {tool : String}
    {arguments : List (String × Value)} {r : Request}
    (h : s.config.accept disk tool arguments = .ok r) :
    (s.call disk tool arguments).1.recorded =
        s.recorded ++ s.config.executor.recorded (s.config.executor.run disk r) ∧
      (s.call disk tool arguments).2.events = (s.config.executor.run disk r).events ∧
      (s.call disk tool arguments).2.answer =
        s.config.runText r.target (s.config.executor.run disk r) := by
  simp only [call, h, recorded_afterLookup, and_self]

end Server

theorem Executor.recorded_run_dry {disk : Disk} {r : Request} {command : List String}
    (succeeds : Bool) (output : String)
    (h : build r.target r.makefile r.settings r.rawArgs = .ok command) :
    (dry succeeds output).recorded ((dry succeeds output).run disk r) = [command] := by
  simp only [run, h, recorded, dryOutcome]

/-! ## Arguments that are texts or null -/

/-- A text as an argument; no text is null. -/
def Value.ofText? : Option String → Value
  | some s => .text s
  | none => .null

/-- Texts and nulls as the arguments of a call. -/
def textArguments (given : List (String × Option String)) : List (String × Value) :=
  given.map fun a => (a.1, .ofText? a.2)

/-- The variables that texts set: each text but an empty one and the raw
arguments, in order. -/
def givenSettings : List (String × Option String) → List (String × String)
  | [] => []
  | (_, none) :: given => givenSettings given
  | (name, some value) :: given =>
    if name = rawArgsName ∨ value = "" then givenSettings given
    else (name, value) :: givenSettings given

/-- The raw arguments among texts.  Null counts as the empty text. -/
def givenRawArgs (given : List (String × Option String)) : String :=
  (given.lookup rawArgsName).join.getD ""

theorem lookup_map_snd {α β : Type} (f : α → β) (l : List (String × α)) (name : String) :
    (l.map fun a => (a.1, f a.2)).lookup name = (l.lookup name).map f := by
  induction l with
  | nil => rfl
  | cons a l ih =>
      rw [List.map_cons, List.lookup_cons, List.lookup_cons, ih]
      cases name == a.1 <;> rfl

theorem lookup_textArguments (given : List (String × Option String)) (name : String) :
    (textArguments given).lookup name = (given.lookup name).map Value.ofText? :=
  lookup_map_snd Value.ofText? given name

/-- Texts and nulls can be written. -/
theorem writable_textArguments (room : Nat) (given : List (String × Option String)) :
    Writable room (textArguments given) := by
  have hvalue : ∀ s, (Value.ofText? s).Fits room := by
    rintro (_ | s) <;> exact ⟨Nat.zero_le _, fun _ h => absurd h List.not_mem_nil⟩
  constructor
  · intro a ha
    obtain ⟨b, -, rfl⟩ := List.mem_map.1 (List.mem_filter.1 ha).1
    exact hvalue b.2
  · intro v hv _
    rw [lookup_textArguments] at hv
    obtain ⟨s, -, rfl⟩ := Option.map_eq_some_iff.1 hv
    exact hvalue s

/-- The settings among arguments that are texts or null are the given ones. -/
theorem collect_textArguments_fst (given : List (String × Option String)) :
    (collect (textArguments given)).1 = givenSettings given := by
  induction given with
  | nil => rfl
  | cons a given ih =>
      obtain ⟨name, _ | value⟩ := a
      · rw [givenSettings, ← ih]
        simp [collect, isSetting, textArguments, Value.ofText?, Value.isAbsent]
      · rw [givenSettings, ← ih]
        by_cases h : name = rawArgsName ∨ value = ""
        · rw [if_pos h]
          have hf : isSetting (name, .text value) = false := by
            rcases h with rfl | rfl <;> simp [isSetting, Value.isAbsent]
          simp [collect, textArguments, Value.ofText?, hf]
        · rw [if_neg h]
          have hf : isSetting (name, .text value) = true := by
            simpa [isSetting, Value.isAbsent] using h
          simp [collect, textArguments, Value.ofText?, hf]

theorem collect_textArguments_snd (given : List (String × Option String)) :
    (collect (textArguments given)).2 = givenRawArgs given := by
  simp only [collect, lookup_textArguments, givenRawArgs]
  rcases given.lookup rawArgsName with _ | _ | value
  · rfl
  · rfl
  · by_cases h : value.isEmpty = true
    · simp [Value.ofText?, Value.isVoid, String.isEmpty_iff.1 h]
    · simp [Value.ofText?, Value.isVoid, h]

theorem collect_textArguments (given : List (String × Option String)) :
    collect (textArguments given) = (givenSettings given, givenRawArgs given) :=
  Prod.ext (collect_textArguments_fst given) (collect_textArguments_snd given)

/-- A variable is set by a text of its name that is not empty. -/
theorem mem_givenSettings_iff {given : List (String × Option String)} {name value : String} :
    (name, value) ∈ givenSettings given ↔
      (name, some value) ∈ given ∧ name ≠ rawArgsName ∧ value ≠ "" := by
  induction given with
  | nil => simp [givenSettings]
  | cons a given ih =>
      obtain ⟨key, _ | text⟩ := a
      · simp [givenSettings, ih]
      · rw [givenSettings]
        by_cases h : key = rawArgsName ∨ text = ""
        · rw [if_pos h, ih, List.mem_cons]
          grind
        · rw [if_neg h, List.mem_cons, ih, List.mem_cons]
          grind

/-! ## Acceptance -/

/-- What a call of a tool with texts has to meet to run a target. -/
structure Runnable (cfg : Config) (disk : Disk) (tool : String)
    (given : List (String × Option String)) (target : String) : Prop where
  named : tool = cfg.toolPrefix ++ target
  declared : cfg.Declares disk target
  allowed : cfg.allowed = [] ∨ target ∈ cfg.allowed
  settings : ∀ name value, (name, some value) ∈ given → name ≠ rawArgsName → value ≠ "" →
    anchored isVariableName name.toList = true ∧ ∀ c ∈ value.toList, isBlocked c = false
  rawArgs : ∀ c ∈ (givenRawArgs given).toList, isBlocked c = false
  closed : Shell.openQuote (givenRawArgs given).toList = none

/-- The command that texts and words make of a target. -/
def givenCommand (makefile : Path) (target : String) (given : List (String × Option String))
    (words : List String) : List String :=
  ["make", "-f", toString makefile, target] ++
    (givenSettings given).map (fun v => v.1 ++ "=" ++ v.2) ++ words

/-- A command comes of a target's name and texts exactly if the texts are safe
and leave no quote open. -/
theorem build_given_eq_ok_iff {target : String} {makefile : Path}
    {given : List (String × Option String)} {command : List String}
    (h : isTargetName target.toList = true) :
    build target makefile (givenSettings given) (givenRawArgs given) = .ok command ↔
      (∀ name value, (name, some value) ∈ given → name ≠ rawArgsName → value ≠ "" →
        anchored isVariableName name.toList = true ∧ ∀ c ∈ value.toList, isBlocked c = false) ∧
      (∀ c ∈ (givenRawArgs given).toList, isBlocked c = false) ∧
      ∃ words, Shell.words (givenRawArgs given) = some words ∧
        command = givenCommand makefile target given words := by
  rw [build_eq_ok_iff_of_isTargetName h]
  simp only [Prod.forall, mem_givenSettings_iff, and_imp]
  rfl

/-- A call with texts comes to a run exactly if it meets the conditions for
some target. -/
theorem accept_textArguments_eq_ok_iff {cfg : Config} {disk : Disk} {tool : String}
    {given : List (String × Option String)} {r : Request} :
    cfg.accept disk tool (textArguments given) = .ok r ↔
      ∃ target, Runnable cfg disk tool given target ∧
        cfg.request target (givenSettings given, givenRawArgs given) = r := by
  rw [Config.accept_eq_ok_iff]
  simp only [collect_textArguments, Config.isAllowed_iff]
  constructor
  · rintro ⟨target, ht, hd, ha, -, ⟨command, hb⟩, hr⟩
    obtain ⟨hs, hw, words, hq, -⟩ := (build_given_eq_ok_iff hd.isTargetName).1 hb
    have hc : Shell.openQuote (givenRawArgs given).toList = none := by
      rw [← Shell.isSome_words_iff, hq, Option.isSome_some]
    exact ⟨target, ⟨ht, hd, ha, hs, hw, hc⟩, hr⟩
  · rintro ⟨target, h, hr⟩
    obtain ⟨words, hq⟩ := Option.isSome_iff_exists.1 ((Shell.isSome_words_iff _).2 h.closed)
    have hb : build target cfg.makefile (givenSettings given) (givenRawArgs given) =
        .ok (givenCommand cfg.makefile target given words) :=
      (build_given_eq_ok_iff h.declared.isTargetName).2 ⟨h.settings, h.rawArgs, words, hq, rfl⟩
    exact ⟨target, h.named, h.declared, h.allowed, writable_textArguments _ _, ⟨_, hb⟩, hr⟩

/-- A dry server records the command of a target that a call may run. -/
theorem Server.recorded_call_of_runnable {s : Server} {disk : Disk} {tool target : String}
    {given : List (String × Option String)} {succeeds : Bool} {output : String}
    (he : s.config.executor = .dry succeeds output)
    (h : Runnable s.config disk tool given target) :
    ∃ words, Shell.words (givenRawArgs given) = some words ∧
      (s.call disk tool (textArguments given)).1.recorded =
        s.recorded ++ [givenCommand s.config.makefile target given words] := by
  obtain ⟨words, hq⟩ := Option.isSome_iff_exists.1 ((Shell.isSome_words_iff _).2 h.closed)
  refine ⟨words, hq, ?_⟩
  have hb : build target s.config.makefile (givenSettings given) (givenRawArgs given) =
      .ok (givenCommand s.config.makefile target given words) :=
    (build_given_eq_ok_iff h.declared.isTargetName).2 ⟨h.settings, h.rawArgs, words, hq, rfl⟩
  have hr : s.config.accept disk tool (textArguments given) =
      .ok (s.config.request target (givenSettings given, givenRawArgs given)) :=
    accept_textArguments_eq_ok_iff.2 ⟨target, h, rfl⟩
  rw [(call_of_accept_eq_ok hr).1, he, Executor.recorded_run_dry succeeds output]
  simp only [Config.request]
  exact hb

/-- A call that may run no target leaves the record as it is and is answered
with an error. -/
theorem Server.call_of_not_runnable {s : Server} {disk : Disk} {tool : String}
    {given : List (String × Option String)} (ha : disk.Accessible s.config.makefile)
    (h : ¬ ∃ target, Runnable s.config disk tool given target) :
    (s.call disk tool (textArguments given)).1.recorded = s.recorded ∧
      ∃ reason, (s.call disk tool (textArguments given)).2.answer = "Error: " ++ reason := by
  cases hr : s.config.accept disk tool (textArguments given) with
  | ok r =>
      obtain ⟨target, ht, -⟩ := accept_textArguments_eq_ok_iff.1 hr
      exact absurd ⟨target, ht⟩ h
  | error o =>
      obtain ⟨hrec, -, hans⟩ := call_of_accept_eq_error hr
      obtain ⟨reason, rfl⟩ :=
        Config.eq_rejected_of_accept_eq_error ha (writable_textArguments _ _) hr
      exact ⟨hrec, reason.message, hans⟩

/-- A dry server records one command exactly for a call that may run a
target. -/
theorem Server.exists_recorded_call_iff {s : Server} {disk : Disk} {tool : String}
    {given : List (String × Option String)} {succeeds : Bool} {output : String}
    (he : s.config.executor = .dry succeeds output) (ha : disk.Accessible s.config.makefile) :
    (∃ command, (s.call disk tool (textArguments given)).1.recorded = s.recorded ++ [command]) ↔
      ∃ target, Runnable s.config disk tool given target := by
  constructor
  · rintro ⟨command, hc⟩
    by_contra h
    rw [(call_of_not_runnable ha h).1] at hc
    simp at hc
  · rintro ⟨target, h⟩
    obtain ⟨words, -, hc⟩ := recorded_call_of_runnable he h
    exact ⟨_, hc⟩

/-- A new session beside a Makefile with this text, with a dry server that
allows these targets. -/
def Session.beside (text : String) (allowed : List String) : Session where
  disk := { entries := [(["Makefile"], .file text.toUTF8.data.toList)] }
  server := { config := { makefile := ⟨.relative, ["Makefile"]⟩, allowed } }

@[simp] theorem Session.server_step_call (s : Session) (tool : String)
    (arguments : List (String × Value)) :
    (s.step (.call tool arguments)).1.server = (s.server.call s.disk tool arguments).1 := rfl

end MakeTools
