import MakeTools.Text.Upper

/-!
# MakeTools.Log.Level

Log levels by name.  Names are read in either case.  Two more names are known
that stand for something else than a level: the basic format and the table of
format styles.
-/

namespace MakeTools.Log

/-- Why a name gives no level: it is not known, it stands for something else,
or it is no text at all. -/
inductive LevelProblem where
  | notAName
  | unknown (name : String)
  | basicFormat
  | styles
deriving DecidableEq, Repr

/-- The wording of a problem with a level. -/
def LevelProblem.message : LevelProblem → String
  | .notAName => "'list' object has no attribute 'upper'"
  | .unknown name => "module 'logging' has no attribute '" ++ name ++ "'"
  | .basicFormat => "Unknown level: '%(levelname)s:%(name)s:%(message)s'"
  | .styles =>
    "Level not an integer or a valid string: \x7b'%': (<class 'logging.PercentStyle'>, "
      ++ "'%(levelname)s:%(name)s:%(message)s'), '\x7b': (<class 'logging.StrFormatStyle'>, "
      ++ "'\x7blevelname\x7d:\x7bname\x7d:\x7bmessage\x7d'), "
      ++ "'$': (<class 'logging.StringTemplateStyle'>, "
      ++ "'$\x7blevelname\x7d:$\x7bname\x7d:$\x7bmessage\x7d')\x7d"

/-- The levels, by name in upper case. -/
def levels : List (String × Nat) :=
  [("NOTSET", 0), ("DEBUG", 10), ("INFO", 20), ("WARN", 30), ("WARNING", 30), ("ERROR", 40),
    ("CRITICAL", 50), ("FATAL", 50)]

/-- The level of this name. -/
def level (name : String) : Except LevelProblem Nat :=
  let name := Text.upper name
  match levels.lookup name with
  | some n => .ok n
  | none =>
    if name = "BASIC_FORMAT" then .error .basicFormat
    else if name = "_STYLES" then .error .styles
    else .error (.unknown name)

/-- How a log line is laid out: time, logger, level, text. -/
def lineFormat : String := "%(asctime)s - %(name)s - %(levelname)s - %(message)s"

end MakeTools.Log
