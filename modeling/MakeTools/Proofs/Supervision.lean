import MakeTools.Proofs.Handover

/-!
# MakeTools.Proofs.Supervision

What comes of a supervised run, and what becomes of its child.

Before the child is started everything is checked: a request that passes is
`Startable`, and any other asks nothing of the system.  From then on only a
cancellation gets through (`Cancelled`); every other trouble becomes an outcome
without success.  A child that runs out of time or whose run is cancelled is
killed with its group (`Interrupted`).

Other trouble with a child that was started does not lead to a kill: the run is
reported as failed, and the child is left as it is
(`finished_or_killed_iff`).
-/

namespace MakeTools

/-- Does the failure end a run from outside: by its time limit, or by a
cancellation? -/
def Failure.Kind.isInterruption : Failure.Kind → Bool
  | .timeout | .cancelled => true
  | .fileMissing | .permission | .processGone | .value | .system _ | .other _ => false

/-- A request to run a target of the Makefile in the working directory. -/
def Request.beside (target : String) : Request where
  target := target
  makefile := ⟨.relative, ["Makefile"]⟩

/-- A child whose time runs out, and that is gone by the time it is killed. -/
def Child.gone : Child where
  communicateFailure := some ⟨.timeout, ""⟩
  killFailure := some ⟨.processGone, ""⟩

namespace Run

variable {disk : Disk} {c : Child} {r : Request} {command : List String}

/-! ## Checks -/

theorem checkRequest_eq_ok_iff :
    checkRequest disk r = .ok command ↔
      Command.build r.target r.makefile r.settings r.rawArgs = .ok command ∧
      (∃ bytes, disk.lookup r.makefile = .ok (some (.file bytes))) ∧ 0 < r.timeout := by
  unfold checkRequest
  cases Command.build r.target r.makefile r.settings r.rawArgs with
  | error e => simp
  | ok built =>
      cases disk.lookup r.makefile with
      | error e => simp
      | ok entry =>
          cases entry with
          | none => simp
          | some entry =>
              cases entry with
              | directory => simp
              | file bytes =>
                  by_cases ht : r.timeout ≤ 0
                  · simp [ht]
                  · simp [ht, Int.not_le.1 ht]

theorem checkDirectory_eq_ok_iff {path : Path} :
    checkDirectory disk path = .ok () ↔ disk.lookup path = .ok (some .directory) := by
  unfold checkDirectory
  cases disk.lookup path with
  | error e => simp
  | ok entry =>
      cases entry with
      | none => simp
      | some entry => cases entry <;> simp

/-- What a request has to meet for a child to be started, with the command that
the child runs. -/
structure Startable (disk : Disk) (r : Request) (command : List String) : Prop where
  built : Command.build r.target r.makefile r.settings r.rawArgs = .ok command
  makefile : ∃ bytes, disk.lookup r.makefile = .ok (some (.file bytes))
  timeout : 0 < r.timeout
  directory : disk.lookup r.workDirectory = .ok (some .directory)

theorem startable_iff :
    Startable disk r command ↔
      checkRequest disk r = .ok command ∧ checkDirectory disk r.workDirectory = .ok () := by
  rw [checkRequest_eq_ok_iff, checkDirectory_eq_ok_iff]
  constructor
  · intro h
    exact ⟨⟨h.built, h.makefile, h.timeout⟩, h.directory⟩
  · intro h
    exact ⟨h.1.1, h.1.2.1, h.1.2.2, h.2⟩

/-- A request that passes the checks starts the child and sees it through. -/
theorem withChild_of_startable (h : Startable disk r command) :
    (withChild disk c r).result = (attend c r command).result ∧
      (withChild disk c r).events =
        .spawn command r.workDirectory true :: (attend c r command).events := by
  obtain ⟨hr, hd⟩ := startable_iff.1 h
  simp only [withChild, hr, launchIn, hd, launch, and_self]

/-- A request that does not pass gives no outcome and asks nothing of the
system. -/
theorem withChild_of_not_startable (h : ¬ ∃ command, Startable disk r command) :
    (∃ p, (withChild disk c r).result = .error p) ∧ (withChild disk c r).events = [] := by
  unfold withChild
  cases hr : checkRequest disk r with
  | error e => exact ⟨⟨e, rfl⟩, rfl⟩
  | ok command =>
      simp only [launchIn]
      cases hd : checkDirectory disk r.workDirectory with
      | error e => exact ⟨⟨e, rfl⟩, rfl⟩
      | ok _ => exact absurd ⟨command, startable_iff.2 ⟨hr, hd⟩⟩ h

/-! ## Killing -/

/-- To kill a child with a process number is to send the kill signal to its
group, and then to wait for it unless the signal cannot be sent. -/
theorem events_kill (hp : c.pid ≠ 0) :
    (kill c).events =
      .killGroup c.pid killSignal :: if c.killFailure = none then [.wait] else [] := by
  simp only [kill, hp, if_false]
  cases c.killFailure with
  | some f => simp [Killing.events_fail]
  | none => cases c.waitFailure <;> simp [Killing.events_fail]

/-- What goes wrong with a child that was started, if anything does: its time
limit cannot be set, or talking to it fails. -/
def trouble? (c : Child) (timeout : Int) : Option Failure :=
  if Decimal.isRoundable timeout then c.communicateFailure else some .notRoundable

/-- The child is started and comes to its end by itself. -/
def Finishes (c : Child) (timeout : Int) : Prop :=
  c.spawnFailure = none ∧ trouble? c timeout = none

/-- Only an interruption leads to a kill. -/
theorem events_breakOff (duration : Float) (started : Option Child) (f : Failure) :
    (breakOff r command duration started f).events =
      if f.kind.isInterruption then (killStarted started).events else [] := by
  unfold breakOff
  cases f.kind <;> rfl

theorem or_communicateFailure (c : Child) (timeout : Int) :
    (timeoutFailure? timeout).or c.communicateFailure = trouble? c timeout := by
  unfold timeoutFailure? trouble?
  cases Decimal.isRoundable timeout <;> rfl

theorem attend_of_trouble {f : Failure} (h : c.spawnFailure = none)
    (ht : trouble? c r.timeout = some f) :
    attend c r command = breakOff r command (c.tick.now - c.now) (some c) f := by
  simp only [attend, h, or_communicateFailure, ht]

theorem attend_of_finishes (h : Finishes c r.timeout) :
    (attend c r command).result = .ok (c.outcome r.target command (c.tick.now - c.now)) ∧
      (attend c r command).events = [] := by
  simp only [attend, h.1, or_communicateFailure, h.2, and_self]

theorem startable_beside :
    Startable (Session.beside "build:\n" []).disk (.beside "build")
      ["make", "-f", "Makefile", "build"] where
  built := by decide
  makefile := ⟨_, rfl⟩
  timeout := by decide
  directory := by decide +kernel

theorem trouble?_gone : trouble? .gone (Request.beside "build").timeout = some ⟨.timeout, ""⟩ := by
  decide +kernel

/-- **Children that are left**: a child with a process number that was started
comes to its end by itself or is killed with its group exactly if the trouble
with it, if there is any, is that its time ran out or that its run was
cancelled. -/
theorem finished_or_killed_iff (hp : c.pid ≠ 0) (h : Startable disk r command)
    (hs : c.spawnFailure = none) :
    (trouble? c r.timeout = none ∨
        .killGroup c.pid killSignal ∈ (withChild disk c r).events) ↔
      ∀ f, trouble? c r.timeout = some f → f.kind.isInterruption = true := by
  rw [(withChild_of_startable h).2]
  cases ht : trouble? c r.timeout with
  | none => simp
  | some f =>
      rw [attend_of_trouble hs ht, events_breakOff, killStarted, events_kill hp]
      cases hf : f.kind.isInterruption <;> simp [hf]

/-- A child whose time runs out is killed although it is gone by then. -/
theorem finished_or_killed_of_gone_child :
    Startable (Session.beside "build:\n" []).disk (.beside "build")
      ["make", "-f", "Makefile", "build"] ∧
    .killGroup 4242 killSignal ∈
      (withChild (Session.beside "build:\n" []).disk .gone (.beside "build")).events := by
  have hkilled := (finished_or_killed_iff (c := .gone) (by decide) startable_beside rfl).2 (by
    intro f hf
    obtain rfl := Option.some.inj (trouble?_gone.symm.trans hf)
    rfl)
  refine ⟨startable_beside, hkilled.resolve_left fun h => ?_⟩
  exact absurd (trouble?_gone.symm.trans h) (by decide)

/-- A child is left running if reading its output fails: nothing but its start
is asked of the system, and the run is reported as failed. -/
theorem exists_child_left :
    ¬ ∀ (disk : Disk) (c : Child) (r : Request) (command : List String), c.pid ≠ 0 →
      Startable disk r command → c.spawnFailure = none →
      trouble? c r.timeout = none ∨ .killGroup c.pid killSignal ∈ (withChild disk c r).events := by
  intro h
  exact absurd (h _ { communicateFailure := some ⟨.system "OSError", "lost"⟩ } _ _ (by decide)
    startable_beside rfl) (by decide +kernel)

end Run
end MakeTools
