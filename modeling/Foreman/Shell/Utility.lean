import Foreman.Shell.Utility.Calculation
import Foreman.Shell.Utility.Columns
import Foreman.Shell.Utility.Diff
import Foreman.Shell.Utility.Dump
import Foreman.Shell.Utility.Editor
import Foreman.Shell.Utility.Encoding
import Foreman.Shell.Utility.Grep
import Foreman.Shell.Utility.Lines
import Foreman.Shell.Utility.Listing
import Foreman.Shell.Utility.Numbering
import Foreman.Shell.Utility.Order
import Foreman.Shell.Utility.Pairs
import Foreman.Shell.Utility.Paragraphs
import Foreman.Shell.Utility.Partition
import Foreman.Shell.Utility.Passages
import Foreman.Shell.Utility.Relations
import Foreman.Shell.Utility.Sampling
import Foreman.Shell.Utility.Scaling
import Foreman.Shell.Utility.Sums
import Foreman.Shell.Utility.System

/-!
# `Foreman.Shell.Utility` — programs that need nothing of the shell around them

## Contents
- `utility?`: the utility of a name.
-/

namespace Foreman.Shell

/-- The utility of a name. -/
def utility? (name : String) : Option Utility :=
  open Utility in
  match name with
  | "true" => some fun _ _ => {}
  | "false" => some fun _ _ => { status := 1 }
  | "cat" => some cat
  | "head" => some head
  | "tail" => some tail
  | "tac" => some tac
  | "rev" => some rev
  | "nl" => some nl
  | "wc" => some wc
  | "sort" => some sort
  | "uniq" => some uniq
  | "comm" => some comm
  | "join" => some join
  | "cut" => some cut
  | "paste" => some paste
  | "fold" => some fold
  | "expand" => some expand
  | "unexpand" => some unexpand
  | "tr" => some tr
  | "rm" => some rm
  | "rmdir" => some rmdir
  | "unlink" => some unlink
  | "mkdir" => some mkdir
  | "touch" => some touch
  | "mkfifo" => some mkfifo
  | "mknod" => some mknod
  | "ln" => some ln
  | "link" => some link
  | "mktemp" => some mktemp
  | "truncate" => some truncate
  | "cp" => some cp
  | "mv" => some mv
  | "install" => some install
  | "chmod" => some chmod
  | "chown" | "chgrp" => some chown
  | "ls" | "dir" | "vdir" => some ls
  | "stat" => some stat
  | "du" => some du
  | "grep" | "egrep" | "fgrep" => some grep
  | "cmp" => some cmp
  | "diff" => some diff
  | "sed" => some sed
  | "date" => some date
  | "expr" => some expr
  | "seq" => some seq
  | "factor" => some factor
  | "echo" => some echoProgram
  | "printf" => some printfProgram
  | "test" | "[" => some testProgram
  | "basename" => some basename
  | "dirname" => some dirname
  | "realpath" => some realpath
  | "readlink" => some readlink
  | "pwd" => some pwdProgram
  | "which" => some which
  | "sleep" => some sleep
  | "id" => some identity
  | "whoami" => some (saying "root".toList)
  | "groups" => some fun _ _ => lineOut "root".toList
  | "arch" => some (saying "x86_64".toList)
  | "nproc" => some fun _ _ => lineOut ['4']
  | "hostname" => some fun _ _ => lineOut "localhost".toList
  | "hostid" => some (saying "007f0100".toList)
  | "logname" => some fun s _ => faultOf 1 s.name "no login name".toList
  | "tty" => some fun _ args =>
    if args.isEmpty then { lineOut "not a tty".toList with status := 1 } else { status := 1 }
  | "users" | "who" | "sync" => some fun _ _ => {}
  | "uname" => some uname
  | "printenv" => some printenv
  | "kill" => some killProgram
  | "yes" => some yes
  | "tee" => some tee
  | "dd" => some dd
  | "od" => some od
  | "base64" => some base64
  | "base32" => some base32
  | "md5sum" | "sha1sum" | "sha224sum" | "sha256sum" | "sha384sum" | "sha512sum" =>
    (DigestKind.all.lookup (name.dropEnd 3).copy).map digestProgram
  | "b2sum" => (DigestKind.all.lookup "blake2b").map digestProgram
  | "cksum" => some cksum
  | "sum" => some sum
  | "split" => some split
  | "csplit" => some csplit
  | "shuf" => some shuf
  | "fmt" => some fmt
  | "numfmt" => some numfmt
  | "tsort" => some tsort
  | _ => none

end Foreman.Shell
