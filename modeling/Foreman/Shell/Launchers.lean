import Foreman.Shell.Batches
import Foreman.Shell.Find
import Foreman.Shell.Records

/-!
# `Foreman.Shell.Launchers` — programs that run other programs, by their names

## Contents
- `launcher?`: the launcher of a name.
-/

namespace Foreman.Shell

/-- The launcher of a name. -/
def launcher? (launch : Launch) (program name : String) : Option (List Octets → Act Unit) :=
  match program with
  | "env" => some (env launch name)
  | "timeout" => some (timeout launch name)
  | "xargs" => some (Batches.xargs launch name)
  | "nice" => some (nice launch name)
  | "nohup" => some (nohup launch name)
  | "setsid" => some (setsid launch name)
  | "stdbuf" => some (stdbuf launch name)
  | "flock" => some (flock launch name)
  | "find" => some (Find.find launch)
  | "awk" | "mawk" | "nawk" => some (Records.awk launch name)
  | _ => none

end Foreman.Shell
