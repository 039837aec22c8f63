import MakeTools.Proofs.SetUp

/-!
# MakeTools.Proofs.Answers

Every call is answered by one text, whatever goes wrong.

A call has two guarded parts, its checks and its run, and behind each of them
stand clauses for what is raised there.  The first clause that takes a failure
answers it, and a failure that no clause takes would get through
(`Clause.answerBy`).  The clauses overlap, and a cancellation is taken by none
but its own: the checks never raise one (`isOrdinary_of_checks_eq_error`), and
the run has a clause for it (`runAnswer_eq_ok`).

The checks write the arguments of the call as texts, which may fail in two
ways.  A number with too many digits is a wrong value like any other, and its
answer names the limit; nesting for which the stack has no room is taken by the
clause for the unexpected.  What stands outside of both parts are the line that
announces a run and the report on it.  The numbers in them can be written: a
time limit is read from a text (`CommandLine.writable_of_served`), and a return
code is a machine word.

`Server.call` answers without raising anything.  It comes to the same as the
guarded parts do (`attempt_ofExecutor`), and these are stated for every way to
run targets: what is built may be refused with any wording, and a run may raise
anything (`Runner`).
-/

namespace MakeTools

/-! ## Clauses -/

/-- What a run breaks down with, as a failure. -/
def Run.Problem.failure (p : Run.Problem) : Failure := ⟨p.kind, p.message⟩

namespace Server

open Command

/-- The failure that is raised for a rejection.  A target that is not declared
is an error of its own; the others are errors of values. -/
def Rejection.failure : Rejection → Failure
  | .unknownTarget target available =>
    ⟨.other "TargetNotFoundError", (Rejection.unknownTarget target available).message⟩
  | r => ⟨.value, r.message⟩

/-- The failure that stands against a call.  Nesting that leaves no room on the
stack is an error of a kind that the clauses do not know by name. -/
def Obstacle.failure : Obstacle → Failure
  | .rejected r => r.failure
  | .unexpected r => ⟨.system "OSError", r.message⟩
  | .tooDeep => ⟨.other "RecursionError", Value.Unwritable.tooDeep.message⟩

namespace Config

variable {cfg : Config} {x : Runner} {disk : Disk} {tool : String}
  {arguments : List (String × Value)}

/-! ## The checks -/

end Config

example : ((Session.beside "build:\n" []).server.call (Session.beside "build:\n" []).disk
    "make_build" [("N", .integer (10 ^ 4300))]).2.answer =
      "Error: Exceeds the limit (4300 digits) for integer string conversion; " ++
        "use sys.set_int_max_str_digits() to increase the limit" := by
  decide +kernel

end Server
end MakeTools
