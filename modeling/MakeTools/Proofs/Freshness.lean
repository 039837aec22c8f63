import MakeTools.Proofs.Handover

/-!
# MakeTools.Proofs.Freshness

Answers come from the files as they stand.

A server keeps the catalog that it loaded last, and a session keeps more: the
record of dry runs and the tools that the client knows.  Listing and calling
write the catalog before they would read it, so that their replies depend on
the set-up of the server and on the files alone (`reply_list_congr`,
`reply_call_congr`).  Whatever two sessions did before, they give the same
replies once their files are the same (`replies_agree`).

Two disks count as the same if they agree on what stands at every place and on
the fault that every path meets (`Disk.Agrees`); in which order things were
written makes no difference.
-/

namespace MakeTools

/-! ## The same files and faults -/

namespace Disk

/-- Two disks have the same working directory, the same entries at all places,
and the same faults on all paths. -/
structure Agrees (d e : Disk) : Prop where
  workDirectory : d.workDirectory = e.workDirectory
  entryAt? : ∀ place, d.entryAt? place = e.entryAt? place
  faultAt? : ∀ path, d.faultAt? path = e.faultAt? path

variable {d e : Disk}

theorem Agrees.of_eq (h : d = e) : d.Agrees e := by
  rw [h]
  exact ⟨rfl, fun _ => rfl, fun _ => rfl⟩

theorem Agrees.walk_eq (h : d.Agrees e) (path : Path) (place : Place) (parts : List String) :
    d.walk path place parts = e.walk path place parts := by
  induction parts generalizing place with
  | nil => rw [walk, walk, h.entryAt?]
  | cons part parts ih =>
      rw [walk, walk, h.entryAt?]
      cases e.entryAt? place with
      | none => rfl
      | some entry =>
          cases entry with
          | file bytes => rfl
          | directory => simp only [ih]

/-- What stands at a path is the same on both. -/
theorem Agrees.lookup_eq (h : d.Agrees e) (path : Path) : d.lookup path = e.lookup path := by
  have hstart : d.start path = e.start path := by rw [start, start, h.workDirectory]
  simp only [lookup, hstart, h.walk_eq]

/-- Two disks have the same at a path: what stands there, and the fault that
reading along it meets. -/
structure AgreesAt (d e : Disk) (path : Path) : Prop where
  lookup : d.lookup path = e.lookup path
  faultAt? : d.faultAt? path = e.faultAt? path

theorem Agrees.agreesAt (h : d.Agrees e) (path : Path) : d.AgreesAt e path :=
  ⟨h.lookup_eq path, h.faultAt? path⟩

/-- The text at a path is the same on both, and so is the reason if there is
none. -/
theorem AgreesAt.readText_eq {path : Path} (h : d.AgreesAt e path) :
    Catalog.readText d path = Catalog.readText e path := by
  unfold Catalog.readText
  rw [h.lookup, h.faultAt?]

end Disk

variable {d e : Disk}

namespace Server.Config

/-- Loading looks at nothing but the path of the Makefile. -/
theorem load_eq_of_agreesAt {cfg : Config} (h : d.AgreesAt e cfg.makefile) :
    cfg.load d = cfg.load e := by
  rw [load, load, Catalog.load, Catalog.load, h.readText_eq]

theorem load_congr (cfg : Config) (h : d.Agrees e) : cfg.load d = cfg.load e :=
  load_eq_of_agreesAt (h.agreesAt cfg.makefile)

theorem refresh_congr (cfg : Config) (h : d.Agrees e) : cfg.refresh d = cfg.refresh e := by
  rw [refresh, refresh, load_congr cfg h]

theorem refreshLog_congr (cfg : Config) (h : d.Agrees e) :
    cfg.refreshLog d = cfg.refreshLog e := by
  rw [refreshLog, refreshLog, load_congr cfg h]

theorem accept_congr (cfg : Config) (h : d.Agrees e) (tool : String)
    (arguments : List (String × Value)) :
    cfg.accept d tool arguments = cfg.accept e tool arguments := by
  rw [accept, accept, refresh_congr cfg h]

end Server.Config

theorem Run.withChild_congr (h : d.Agrees e) (c : Child) (r : Request) :
    withChild d c r = withChild e c r := by
  have hr : checkRequest d r = checkRequest e r := by
    unfold checkRequest
    rw [h.lookup_eq]
  have hd : checkDirectory d r.workDirectory = checkDirectory e r.workDirectory := by
    unfold checkDirectory
    rw [h.lookup_eq]
  simp only [withChild, launchIn, hr, hd]

theorem Executor.run_congr (h : d.Agrees e) (x : Executor) (r : Request) :
    x.run d r = x.run e r := by
  cases x with
  | dry succeeds output => rfl
  | child c => exact Run.withChild_congr h c r
  | failing f => rfl

/-! ## Replies of a server -/

namespace Server

variable {s t : Server}

/-- A reply to a listing depends on the set-up and the files alone. -/
theorem reply_list_congr (hc : s.config = t.config) (h : d.Agrees e) :
    (s.list d).2 = (t.list e).2 := by
  simp only [list, hc, Config.refresh_congr t.config h, Config.refreshLog_congr t.config h]

/-- A reply to a call depends on the set-up and the files alone. -/
theorem reply_call_congr (hc : s.config = t.config) (h : d.Agrees e) (tool : String)
    (arguments : List (String × Value)) :
    (s.call d tool arguments).2 = (t.call e tool arguments).2 := by
  have hlog : s.lookupLog d tool = t.lookupLog e tool := by
    rw [lookupLog, lookupLog, hc, Config.refreshLog_congr t.config h]
  simp only [call, hlog, hc, Config.accept_congr t.config h]
  cases t.config.accept e tool arguments with
  | error o => rfl
  | ok r => simp only [Executor.run_congr h]

/-- Listing keeps the catalog of the Makefile as it stands. -/
theorem catalog_list {c : Catalog} (h : s.config.refresh d = .ok c) :
    (s.list d).1.catalog = some c := by
  simp only [list, h, keep]

/-- So does a call of a name that can be a tool's, whatever comes of it. -/
theorem catalog_call {c : Catalog} (h : s.config.refresh d = .ok c) (target : String)
    (arguments : List (String × Value)) :
    (s.call d (s.config.toolPrefix ++ target) arguments).1.catalog = some c := by
  have hlookup : (s.afterLookup d (s.config.toolPrefix ++ target)).catalog = some c := by
    simp only [afterLookup, Config.targetOf?_eq_some_iff.2 rfl, h, keep]
  unfold call
  cases s.config.accept d (s.config.toolPrefix ++ target) arguments with
  | error o => exact hlookup
  | ok r => exact hlookup

end Server

/-! ## Two sessions -/

namespace Session

variable {s t : Session}

theorem step_list_congr (hc : s.server.config = t.server.config) (h : s.disk.Agrees t.disk) :
    (s.step .list).2 = (t.step .list).2 := by
  have hreply : (s.server.list s.disk).2 = (t.server.list t.disk).2 :=
    Server.reply_list_congr hc h
  simp only [step, hreply]

theorem step_call_congr (hc : s.server.config = t.server.config) (h : s.disk.Agrees t.disk)
    (tool : String) (arguments : List (String × Value)) :
    (s.step (.call tool arguments)).2 = (t.step (.call tool arguments)).2 := by
  have hreply : (s.server.call s.disk tool arguments).2 = (t.server.call t.disk tool arguments).2 :=
    Server.reply_call_congr hc h tool arguments
  simp only [step, callServer, hreply]

theorem catalog_step_list {c : Catalog} (h : s.server.config.refresh s.disk = .ok c) :
    (s.step .list).1.server.catalog = some c := by
  have hserver : (s.step .list).1.server = (s.server.list s.disk).1 := rfl
  rw [hserver, Server.catalog_list h]

theorem catalog_step_call {c : Catalog} (h : s.server.config.refresh s.disk = .ok c)
    (target : String) (arguments : List (String × Value)) :
    (s.step (.call (s.server.config.toolPrefix ++ target) arguments)).1.server.catalog =
      some c := by
  rw [server_step_call, Server.catalog_call h]

/-- No run of steps changes how the server is set up. -/
theorem config_run (s : Session) (steps : List Step) :
    (s.run steps).1.server.config = s.server.config := by
  induction steps generalizing s with
  | nil => rfl
  | cons step steps ih => exact (ih _).trans (config_step s step)

/-- The session with another way to run targets. -/
def withExecutor (s : Session) (x : Executor) : Session :=
  { s with server := { s.server with config := { s.server.config with executor := x } } }

theorem disk_withExecutor (s : Session) (x : Executor) : (s.withExecutor x).disk = s.disk := rfl

theorem config_withExecutor_run (s : Session) (steps : List Step) (x : Executor) :
    ((s.run steps).1.withExecutor x).server.config = { s.server.config with executor := x } := by
  rw [← config_run s steps]
  rfl

/-- **Fresh answers**: two sessions with servers of the same set-up that have the
same files and faults after any steps give the same replies to a listing and
to any call, if they run targets the same way from then on.  If the Makefile can
be looked up, then after a listing, and after a call of a name with the shared
beginning, both servers have the catalog of the Makefile as it stands, or an
empty one if the Makefile cannot be loaded. -/
theorem replies_agree {steps steps' : List Step} (x : Executor)
    (hc : { s.server.config with executor := x } = { t.server.config with executor := x })
    (hd : (s.run steps).1.disk.Agrees (t.run steps').1.disk) :
    let s' := (s.run steps).1.withExecutor x
    let t' := (t.run steps').1.withExecutor x
    (s'.step .list).2 = (t'.step .list).2 ∧
    (∀ tool arguments, (s'.step (.call tool arguments)).2 = (t'.step (.call tool arguments)).2) ∧
    (s'.disk.Accessible s.server.config.makefile → ∃ c : Catalog,
      (s.server.config.load s'.disk = .ok c ∨
        ∃ e, s.server.config.load s'.disk = .error e ∧ (∀ r, e ≠ .refused r) ∧
          c.targets = [] ∧ c.assigned = []) ∧
      ((s'.step .list).1.server.catalog = some c ∧ (t'.step .list).1.server.catalog = some c) ∧
      ∀ target arguments,
        (s'.step (.call (s.server.config.toolPrefix ++ target) arguments)).1.server.catalog =
          some c ∧
        (t'.step (.call (s.server.config.toolPrefix ++ target) arguments)).1.server.catalog =
          some c) := by
  intro s' t'
  have hs : s'.server.config = { s.server.config with executor := x } :=
    config_withExecutor_run s steps x
  have ht : s'.server.config = t'.server.config :=
    (hs.trans hc).trans (config_withExecutor_run t steps' x).symm
  have hdisk : s'.disk.Agrees t'.disk := hd
  refine ⟨step_list_congr ht hdisk, step_call_congr ht hdisk, fun ha => ?_⟩
  obtain ⟨c, hfresh⟩ := Server.Config.exists_refresh_eq_ok ha
  -- Neither loading nor the names of tools depend on how targets are run.
  have hrefresh : s'.server.config.refresh s'.disk = .ok c := by rw [hs]; exact hfresh
  have hrefresh' : t'.server.config.refresh t'.disk = .ok c := by
    rw [← ht, ← Server.Config.refresh_congr _ hdisk, hrefresh]
  have hbegin : s.server.config.toolPrefix = s'.server.config.toolPrefix := by rw [hs]
  have hload : s.server.config.load s'.disk = .ok c ∨
      ∃ e, s.server.config.load s'.disk = .error e ∧ (∀ r, e ≠ .refused r) ∧
        c.targets = [] ∧ c.assigned = [] := by
    cases Server.Config.refresh_eq_ok_iff.1 hfresh with
    | inl hload => exact .inl hload
    | inr hload =>
        obtain ⟨e, he, hr, rfl⟩ := hload
        exact .inr ⟨e, he, hr, rfl, rfl⟩
  refine ⟨c, hload, ⟨catalog_step_list hrefresh, catalog_step_list hrefresh'⟩,
    fun target arguments => ?_⟩
  rw [hbegin]
  have hcall := catalog_step_call hrefresh' target arguments
  rw [← ht] at hcall
  exact ⟨catalog_step_call hrefresh target arguments, hcall⟩

/-- One session listed another Makefile and ran its targets as children before
the file was edited, the other never loaded anything; they cannot be told apart
afterwards. -/
theorem replies_agree_of_edited_makefile :
    let s := Session.beside "build:\n" []
    let steps : List Step := [.list, .call "make_build" [],
      .change ⟨.relative, ["Makefile"]⟩ (.write "deploy:\n".toUTF8.data.toList)]
    let s' := ((s.withExecutor (.child {})).run steps).1.withExecutor .standard
    let t := Session.beside "deploy:\n" []
    s'.server.catalog ≠ t.server.catalog ∧ s'.disk.Agrees t.disk ∧
      t.disk.Accessible ⟨.relative, ["Makefile"]⟩ ∧
      (s'.step .list).2 = (t.step .list).2 ∧
      (s'.step (.call "make_build" [])).2 = (t.step (.call "make_build" [])).2 ∧
      (s'.step .list).1.server.catalog = (t.step .list).1.server.catalog := by
  intro s steps s' t
  have hrun : ((s.withExecutor (.child {})).run steps).1.disk = t.disk := by decide +kernel
  have hdisk : s'.disk = t.disk := (disk_withExecutor _ _).trans hrun
  have haccess : t.disk.Accessible ⟨.relative, ["Makefile"]⟩ := by decide +kernel
  have hconfig : { (s.withExecutor (.child {})).server.config with executor := .standard } =
      { t.server.config with executor := .standard } := rfl
  have hruns : ((s.withExecutor (.child {})).run steps).1.disk.Agrees (t.run []).1.disk :=
    .of_eq hrun
  obtain ⟨hlist, hcall, hcatalog⟩ := replies_agree .standard hconfig hruns
  have haccess' : s'.disk.Accessible ⟨.relative, ["Makefile"]⟩ := by
    rw [hdisk]
    exact haccess
  obtain ⟨c, -, hc, -⟩ := hcatalog haccess'
  exact ⟨by decide +kernel, .of_eq hdisk, haccess, hlist, hcall _ _, hc.1.trans hc.2.symm⟩

end Session
end MakeTools
