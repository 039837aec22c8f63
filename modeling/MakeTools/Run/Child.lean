import MakeTools.Run.Basic

/-!
# MakeTools.Run.Child

A child process, and how it is killed.

A child is given by a script: what starting it, talking to it, killing it and
waiting for it come to, and what the clock shows.  To kill it is to send the
kill signal to its whole group and to wait for it; what goes wrong then is
mostly expected or logged.
-/

namespace MakeTools

/-- How a child process behaves. -/
structure Child where
  /-- The bytes that it writes. -/
  bytes : List UInt8 := []
  /-- Its return code, if it has one. -/
  returnCode : Option Int := some 0
  pid : Int := 4242
  /-- What the clock shows, reading by reading; zero when it is used up. -/
  clock : List Float := [0, 0]
  spawnFailure : Option Failure := none
  communicateFailure : Option Failure := none
  killFailure : Option Failure := none
  waitFailure : Option Failure := none

namespace Child

/-- Read the clock. -/
def now (c : Child) : Float := c.clock.headD 0

/-- The child with its clock read once. -/
def tick (c : Child) : Child := { c with clock := c.clock.tail }

/-- The outcome of a child that ended. -/
def outcome (c : Child) (target : String) (command : List String) (duration : Float) :
    Outcome where
  success := c.returnCode == some 0
  exitCode := c.returnCode.getD 0
  output := String.ofList (Text.Utf8.decodeLossy c.bytes)
  duration := duration
  target := target
  command := command

end Child

namespace Run

/-! ## Killing -/

/-- What killing a child asks for, logs, and lets through. -/
structure Killing where
  events : List Event := []
  log : List Log.Entry := []
  failure : Option Failure := none

/-- The kill signal. -/
def killSignal : Nat := 9

/-- What a failure to kill comes to.  That the child does not end in time and
that it is gone already are expected; other errors of the operating system are
logged; anything else gets through. -/
def Killing.fail (events : List Event) (f : Failure) : Killing :=
  match f.kind with
  | .timeout => ⟨events, [⟨.warning, .executor,
      "Process did not terminate within 5s after SIGKILL (may have orphaned children)"⟩], none⟩
  | .processGone => ⟨events, [], none⟩
  | kind =>
    if kind.isSystem then ⟨events, [⟨.error, .executor, "Failed to kill make process"⟩], none⟩
    else ⟨events, [], some f⟩

/-- Kill the group of a child that was started, and wait for the child.  A
child without a process number is only waited for. -/
def kill (c : Child) : Killing :=
  let signals := if c.pid = 0 then [] else [Event.killGroup c.pid killSignal]
  match (if c.pid = 0 then none else c.killFailure), c.waitFailure with
  | some f, _ => .fail signals f
  | none, some f => .fail (signals ++ [.wait]) f
  | none, none => ⟨signals ++ [.wait], [], none⟩

/-- What killing comes to if the child was started at all. -/
def killStarted : Option Child → Killing
  | some c => kill c
  | none => {}

end Run
end MakeTools
