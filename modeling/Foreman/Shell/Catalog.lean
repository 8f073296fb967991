/-!
# `Foreman.Shell.Catalog` — what every system has

## Contents
- **Paths**: folders, devices, links and texts that are always there; the root is the empty path.
- **Programs**: their names; `programOf?` finds the name of the program at a path.
-/

namespace Foreman.Shell.Catalog

/-- The folder in which a script starts. -/
def startFolder : String := "/tmp/foreman"

/-- The folders that every system has. -/
def folders : List String :=
  ["", startFolder, "/boot", "/dev", "/dev/fd", "/dev/pts", "/dev/shm", "/etc", "/home", "/media",
    "/mnt", "/opt", "/proc", "/root", "/run", "/srv", "/sys", "/tmp", "/usr", "/usr/bin", "/usr/games",
    "/usr/include", "/usr/lib", "/usr/libexec", "/usr/local", "/usr/local/bin", "/usr/local/lib",
    "/usr/local/sbin", "/usr/sbin", "/usr/share", "/usr/src", "/var", "/var/cache", "/var/lib",
    "/var/log", "/var/spool", "/var/tmp"]

/-- The folders that everyone may write to. -/
def isShared (path : String) : Bool := path = "/tmp" || path = "/var/tmp" || path = "/dev/shm"

/-- Sources and sinks. -/
def devices : List String :=
  ["/dev/full", "/dev/null", "/dev/random", "/dev/tty", "/dev/urandom", "/dev/zero"]

/-- The sources that have no end. -/
def endless : List String := ["/dev/full", "/dev/random", "/dev/urandom", "/dev/zero"]

/-- Links, with their targets. -/
def links : List (String × String) :=
  [("/bin", "usr/bin"), ("/lib", "usr/lib"), ("/sbin", "usr/sbin"), ("/usr/bin/sh", "dash"),
    ("/usr/bin/awk", "mawk"), ("/var/run", "/run")]

/-- Texts. -/
def texts : List (String × String) :=
  [("/etc/group", "root:x:0:\ndaemon:x:1:\nbin:x:2:\nsys:x:3:\nadm:x:4:\n"),
    ("/etc/hostname", "localhost\n"),
    ("/etc/hosts", "127.0.0.1\tlocalhost\n"),
    ("/etc/passwd", "root:x:0:0:root:/root:/bin/bash\n" ++
      "daemon:x:1:1:daemon:/usr/sbin:/usr/sbin/nologin\nbin:x:2:2:bin:/bin:/usr/sbin/nologin\n" ++
      "sys:x:3:3:sys:/dev:/usr/sbin/nologin\nsync:x:4:65534:sync:/bin:/bin/sync\n" ++
      "games:x:5:60:games:/usr/games:/usr/sbin/nologin\n" ++
      "nobody:x:65534:65534:nobody:/nonexistent:/usr/sbin/nologin\n"),
    ("/etc/shells", "# /etc/shells: valid login shells\n/bin/sh\n/usr/bin/sh\n/bin/bash\n" ++
      "/usr/bin/bash\n/bin/rbash\n/usr/bin/rbash\n/bin/dash\n/usr/bin/dash\n")]

/-- The names of programs. -/
def programs : List String :=
  ["[", "arch", "awk", "b2sum", "base32", "base64", "basename", "bash", "cat", "chgrp", "chmod", "chown",
    "cksum", "cmp", "comm", "cp", "csplit", "cut", "dash", "date", "dd", "df", "diff", "dir", "dirname", "du",
    "echo", "egrep", "env", "expand", "expr", "factor", "false", "fgrep", "find", "flock", "fmt", "fold", "grep",
    "groups", "gunzip", "gzip", "head", "hostid", "hostname", "id", "install", "join", "kill", "link",
    "ln", "logname", "ls", "mawk", "md5sum", "mkdir", "mkfifo", "mknod", "mktemp", "mv", "nawk", "nice", "nl",
    "nohup", "nproc", "numfmt", "od", "paste", "pathchk", "perl", "printenv", "printf", "ps", "pwd",
    "readlink", "realpath", "rev", "rm", "rmdir", "sed", "seq", "setsid", "sh", "sha1sum", "sha224sum",
    "sha256sum", "sha384sum", "sha512sum", "shred", "shuf", "sleep", "sort", "split", "stat", "stdbuf",
    "stty", "sum", "sync", "tac", "tail", "tar", "tee", "test", "timeout", "touch", "tr", "true",
    "truncate", "tsort", "tty", "uname", "unexpand", "uniq", "unlink", "users", "vdir", "wc", "which",
    "who", "whoami", "xargs", "yes"]

/-- The programs that read what their operands lead to. -/
def readers : List String :=
  ["b2sum", "base32", "base64", "cat", "cksum", "cmp", "comm", "csplit", "cut", "diff", "expand", "fmt", "fold",
    "grep", "head", "join", "md5sum", "nl", "od", "paste", "rev", "sed", "sha1sum", "sha224sum", "sha256sum",
    "sha384sum", "sha512sum", "shuf", "sort", "split", "sum", "tac", "tail", "tsort", "unexpand", "uniq", "wc"]

/-- The path of a program. -/
def programPath (name : String) : String := "/usr/bin/" ++ name

/-- The name of the program at a path without links. -/
def programOf? (path : String) : Option String :=
  let name := String.ofList (path.toList.drop "/usr/bin/".length)
  if "/usr/bin/".isPrefixOf path ∧ programs.contains name then some name else none

/-- All paths of the catalogue. -/
def paths : List String :=
  folders ++ devices ++ links.map Prod.fst ++ texts.map Prod.fst ++ programs.map programPath

end Foreman.Shell.Catalog
