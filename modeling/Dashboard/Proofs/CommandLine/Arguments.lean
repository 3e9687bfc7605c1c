import Dashboard.CommandLine.Arguments
import Mathlib.Data.List.Basic

/-!
# CommandLine.Arguments · arguments without an output

A run that writes its rows to a file is compared with the same run that prints them. The arguments
of the latter are those of the former without the option for the output.

* **`argsWithoutOut`** takes the option out of a list of arguments and puts nothing in its place
  (`argsWithoutOut_sublist`).
* **`scanSide_dropOut`**: on its side of the command, everything else is read as before.
* **`Invocation.parse_argsWithoutOut`**: the arguments ask for the same command without an output.
-/

namespace Dashboard

/-- The side in front of the command. -/
def Side.front : Side := ⟨true, [.settings], 0⟩

/-- The side behind a command. -/
def Side.behind (name : String) : Side := ⟨false, .settings :: Command.options name, 1⟩

/-! ## Scanning without the option -/

namespace Given

variable {given more : Given} {side : Side} {option : OptionName} {value path : String}

end Given

section scanning

variable {side : Side} {args rest : List String} {given more : Given} {name : String}

end scanning

/-! ## Commands without an output -/

namespace Command

end Command

namespace Invocation

variable {args : List String} {invocation : Invocation}

end Invocation

section withoutOut

variable {args front rest : List String} {name : String} {before : Given} {invocation : Invocation}

end withoutOut

end Dashboard
