import TestWeaver.FileTree.Files
import TestWeaver.Text.Raw

/-!
The file system of a bare machine: the programs that every system has, and nothing else.
-/

namespace TestWeaver.Machine

open FileTree (Node Entries Place)

/-- Programs that start a shell. -/
def shells : List Text := ["sh", "dash", "bash"].map String.toList

def programs : List Text :=
  shells ++ ["[", "arch", "awk", "base32", "base64", "basename", "cat", "chmod", "cksum", "cmp",
    "comm", "cp", "cut", "date", "dd", "diff", "dirname", "echo", "egrep", "env", "expand",
    "expr", "factor", "false", "fgrep", "find", "fold", "grep", "groups", "head", "id", "install",
    "join", "kill", "link", "ln", "logname", "ls", "mawk", "md5sum", "mkdir", "mktemp", "mv",
    "nice", "nl", "nohup", "nproc", "od", "paste", "printenv", "printf", "pwd", "readlink",
    "realpath", "rev", "rm", "rmdir", "sed", "seq", "setsid", "sha1sum", "sha224sum", "sha256sum",
    "sha384sum", "sha512sum", "sleep", "sort", "split", "stat", "stdbuf", "sum", "sync", "tac",
    "tail", "tee", "test", "timeout", "touch", "tr", "true", "truncate", "tsort", "tty", "uname",
    "unexpand", "uniq", "unlink", "users", "wc", "which", "who", "whoami", "xargs", "yes"].map String.toList

def systemDir : Place := ["usr".toList, "bin".toList]

/-- How the file of a program begins; its name follows. -/
def programMark : Utf8.Octets := [0x7F, 0x45, 0x4C, 0x46]

def programEntries : List Text → Entries
  | [] => .nil
  | p :: ps => .cons p (.file (programMark ++ Utf8.encode p) true) (programEntries ps)

def devices : List Text :=
  ["full", "null", "stderr", "stdin", "stdout", "tty", "zero"].map String.toList

def deviceEntries : List Text → Entries
  | [] => .nil
  | d :: ds => .cons d (.file [] false) (deviceEntries ds)

def emptyDirs : List String → Entries → Entries
  | [], rest => rest
  | d :: ds, rest => .cons d.toList (.dir .nil) (emptyDirs ds rest)

/-- The devices, and the streams of a process by their numbers. -/
def deviceDir : Node :=
  .dir <| .cons "fd".toList (.dir (deviceEntries ((List.range 10).map Raw.ofNat)))
    (deviceEntries devices)

/-- The tree of the machine. The short name of the system directory is a link. -/
def machine : Node :=
  .dir <| .cons "usr".toList (.dir <| .cons "bin".toList (.dir (programEntries programs)) <|
      emptyDirs ["include", "lib", "local", "sbin", "share"] .nil) <|
    .cons "bin".toList (.link "usr/bin".toList) <|
    .cons "lib".toList (.link "usr/lib".toList) <|
    .cons "sbin".toList (.link "usr/sbin".toList) <|
    .cons "dev".toList deviceDir <|
    emptyDirs ["boot", "etc", "home", "media", "mnt", "opt", "proc", "root", "run", "srv", "sys",
      "tmp", "var"] .nil

/-- The name of the program that a file holds. -/
def programIn? (octets : Utf8.Octets) : Option Text :=
  if octets.take 4 = programMark then
    let name := Utf8.decodeLossy (octets.drop 4)
    if name ∈ programs then some name else none
  else none

end TestWeaver.Machine
