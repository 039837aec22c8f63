/-!
# MakeTools.Log

Log entries: how grave, which part of the program speaks, and what it says.
Entries are values; what an operation logs is computed beside its answer.
-/

namespace MakeTools.Log

/-- How grave an entry is. -/
inductive Severity where
  | debug
  | info
  | warning
  | error
deriving DecidableEq, Repr

/-- The part of the program that speaks. -/
inductive Source where
  | server
  | reader
  | executor
deriving DecidableEq, Repr

/-- One log entry. -/
structure Entry where
  severity : Severity
  source : Source
  text : String
deriving DecidableEq, Repr

end MakeTools.Log
