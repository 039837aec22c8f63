/-!
# MakeTools.Failure

Failures of the surrounding system while a command runs, by kind and text.

The kinds are those that are told apart somewhere: a run that was cancelled, a
time limit that ran out, a file that is missing, a permission that is denied,
a process that is gone, other errors of the operating system, wrong values,
and everything else.
-/

namespace MakeTools

/-- The kind of a failure.  The last two carry the name of the exact kind. -/
inductive Failure.Kind where
  | cancelled
  | timeout
  | fileMissing
  | permission
  | processGone
  | value
  | system (name : String)
  | other (name : String)
deriving DecidableEq, Repr

/-- A failure. -/
structure Failure where
  kind : Failure.Kind
  text : String
deriving DecidableEq, Repr

/-- The failure to turn a whole number into a floating-point number. -/
def Failure.notRoundable : Failure := ⟨.other "OverflowError", "int too large to convert to float"⟩

/-- Is it an error of the operating system?  A time limit that runs out counts
as one. -/
def Failure.Kind.isSystem : Failure.Kind → Bool
  | .timeout | .fileMissing | .permission | .processGone | .system _ => true
  | .cancelled | .value | .other _ => false

end MakeTools
