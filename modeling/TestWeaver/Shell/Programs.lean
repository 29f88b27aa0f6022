import TestWeaver.Shell.Start
import TestWeaver.Utility.Blocks
import TestWeaver.Utility.Coding
import TestWeaver.Utility.Columns
import TestWeaver.Utility.Comparing
import TestWeaver.Utility.Editing
import TestWeaver.Utility.Finding
import TestWeaver.Utility.Listing
import TestWeaver.Utility.Searching
import TestWeaver.Utility.Sorting

/-!
What each program of the machine does.
-/

namespace TestWeaver.Shell

open Machine (Executable Work)
open Utility (Program Starter)

/-- The programs that start no others. -/
def plainPrograms : List (String × Program) :=
  [("[", Utility.testProgram true), ("arch", Utility.arch), ("base32", Utility.base32),
    ("base64", Utility.base64), ("basename", Utility.basename),
    ("cat", Utility.cat), ("chmod", Utility.chmod), ("cksum", Utility.cksum),
    ("cmp", Utility.cmp), ("comm", Utility.comm), ("cp", Utility.cp), ("cut", Utility.cut),
    ("date", Utility.date), ("dd", Utility.dd),
    ("diff", Utility.diff), ("dirname", Utility.dirname),
    ("echo", Utility.echoProgram), ("egrep", Utility.grepProgram true false),
    ("expand", Utility.expand), ("expr", Utility.expr), ("factor", Utility.factor),
    ("false", fun _ => Utility.setStatus 1), ("fgrep", Utility.grepProgram false true),
    ("fold", Utility.foldLines), ("grep", Utility.grepProgram false false),
    ("groups", Utility.groups), ("head", Utility.head), ("id", Utility.id), ("install", Utility.install),
    ("join", Utility.join), ("kill", Utility.kill), ("link", Utility.link), ("ln", Utility.ln),
    ("logname", Utility.logname),
    ("ls", Utility.ls), ("md5sum", Utility.sumProgram "MD5" Utility.md5), ("mkdir", Utility.mkdir),
    ("mktemp", Utility.mktemp), ("mv", Utility.mv), ("nl", Utility.nl),
    ("nproc", Utility.nproc), ("od", Utility.od), ("paste", Utility.paste),
    ("printenv", Utility.printenv), ("printf", Utility.printfProgram), ("pwd", Utility.pwd),
    ("readlink", Utility.readlink), ("realpath", Utility.realpath), ("rev", Utility.rev),
    ("rm", Utility.rm), ("rmdir", Utility.rmdir), ("sed", Utility.Edit.sed),
    ("seq", Utility.seq), ("sha1sum", Utility.sumProgram "SHA1" Utility.sha1),
    ("sha224sum", Utility.sumProgram "SHA224" Utility.sha224),
    ("sha256sum", Utility.sumProgram "SHA256" Utility.sha256),
    ("sha384sum", Utility.sumProgram "SHA384" Utility.sha384),
    ("sha512sum", Utility.sumProgram "SHA512" Utility.sha512), ("sleep", Utility.sleep),
    ("sort", Utility.sortProgram), ("split", Utility.split), ("stat", Utility.stat),
    ("sum", Utility.sumOctets),
    ("tac", Utility.tac), ("tail", Utility.tail), ("tee", Utility.tee),
    ("test", Utility.testProgram false), ("touch", Utility.touch), ("tr", Utility.tr),
    ("truncate", Utility.truncate), ("tsort", Utility.tsort), ("tty", Utility.tty),
    ("uname", Utility.uname), ("unexpand", Utility.unexpand), ("uniq", Utility.uniq),
    ("unlink", Utility.unlink), ("users", Utility.users), ("wc", Utility.wc), ("which", Utility.which),
    ("who", Utility.users), ("whoami", Utility.whoami), ("yes", Utility.yes)]

/-- The programs that start others. -/
def startingPrograms : List (String × (Starter → Program)) :=
  [("env", Utility.env), ("find", Utility.findProgram), ("nice", Utility.nice),
    ("nohup", Utility.nohup),
    ("setsid", Utility.setsid), ("stdbuf", Utility.stdbuf),
    ("timeout", Utility.timeout), ("xargs", Utility.xargs)]

/-- How deep commands may be nested. -/
def nesting : Nat := 100000

/-- The work of a program, which may go over into others so many times. -/
def program : Nat → Starter
  | 0 => fun _ _ _ => .ended (.killed signalFault)
  | n + 1 => fun e args env =>
    let args := e.leading ++ args
    let name := String.ofList e.program
    if Machine.shells.contains e.program then
      start (name = "bash") (runner (program n) nesting) e.self args env
    else
      let p : Program :=
        match plainPrograms.lookup name with
        | some p => p
        | none =>
          match startingPrograms.lookup name with
          | some p => p (program n)
          | none => fun _ => return
      p.work ⟨e.self, args, env⟩

end TestWeaver.Shell
