import TestWeaver.Child.Basic
import TestWeaver.Machine.Kernel
import TestWeaver.Shell.Programs

/-!
Starting commands on the machine: what becomes of a command line as a child process.
-/

namespace TestWeaver.Shell

open Build (Invocation)
open Machine (Executable Kernel)

/-- How many steps all processes of a command may take together. -/
def steps : Nat := 3000000

/-- How often one program may go over into another. -/
def changes : Nat := 1000000

def nullByte : Char := Char.ofNat 0

/-- The process that a command is started as, and the one that starts it. -/
def leaderId : Nat := 4242

def starterId : Nat := 4241

def searchVariable (workspace : Path) : Text :=
  workspace.toText ++ "/bin:/usr/bin:/bin".toList

def environment (workspace : Path) (home : Path) : List (Text × Text) :=
  [("PATH".toList, Raw.ofText (searchVariable workspace)), ("HOME".toList, Raw.ofText home.toText),
    ("LANG".toList, "C.UTF-8".toList)]

/-- The machine when a command has just been started. -/
def started (workspace : Path) (t : FileTree) (e : Executable) (args : List Text) : Kernel :=
  let e := Utility.rawly e
  let work := program changes e (args.map Raw.ofText) (environment workspace t.home)
  { root := t.root, home := t.home, nextId := leaderId + 1, nextNumber := 3
    processes := [(leaderId, {
      parent := starterId, group := leaderId, time := 0, doing := .ready work
      streams := [(0, 0), (1, 1), (2, 2)], here := t.here })]
    streams := [(0, { object := .null, readable := true }),
      (1, { object := .world false, writable := true }),
      (2, { object := .world true, writable := true })] }

def outputText (k : Kernel) (errors : Bool) : Text :=
  Utf8.unifyNewlines (Utf8.decodeLossy (Raw.toOctets (k.written errors)))

def hasEnded (k : Kernel) : Bool := (k.ending? leaderId).isSome

/-- Whether a command is over: it has ended, and nobody can write to the outer world. -/
def isOver (k : Kernel) : Bool := hasEnded k && !k.holdsWorld

def signalGroup (k : Kernel) (time signal : Nat) : Kernel :=
  (k.targets (k.get leaderId) (-(leaderId : Int))).foldl (fun k id => k.deliver time signal id) k

/-- The exit code of the leader, once it has ended. -/
def exitCode? (k : Kernel) : Option Int :=
  (k.ending? leaderId).map fun
    | .exited n => (n : Int)
    | .killed n => -(n : Int)

/-- What becomes of a command, and what it leaves behind. One that takes too long is ended with
all its group. -/
def outcome (k : Kernel) (deadline grace : Nat) : Kernel × Child.Behaviour :=
  let (ended, k) := Kernel.run isOver deadline steps k
  if ended then
    (k, { id := leaderId
          wait := .ended (outputText k false) (outputText k true) ((exitCode? k).getD 0) })
  else
    let gone := exitCode? k
    let k := signalGroup k deadline Kernel.signalTerminate
    let (yields, k) := Kernel.run hasEnded (deadline + grace) steps k
    let k := signalGroup k (deadline + grace) Kernel.signalKill
    (k, { id := leaderId, wait := .late, gone := gone, yields := yields
          drains := !k.holdsWorld })

/-- Starts a command, which is given some time to end once it is asked to. The directory must be
there, and the command is looked for from it. -/
def launch (workspace : Path) (grace : Nat) (t : FileTree) (i : Invocation) :
    FileTree × Child.Start :=
  if (i.dir :: i.argv).any fun s => s.contains nullByte then
    (t, .failed (.value "embedded null byte".toList))
  else
    match FileTree.follow t.root t.here true i.dir with
    | .error c => (t, .refused c.text)
    | .ok (_, none) => (t, .refused FileTree.Cause.noEntry.text)
    | .ok (place, some (.dir _)) =>
      let inside := { t with here := place }
      match Machine.search inside workspace i.command with
      | .error r => (t, .refused r.text)
      | .ok e =>
        match Child.waitFault? i.timeout with
        | some f => (t, .started { id := leaderId, wait := .broke f })
        | none =>
          let (k, b) := outcome (started workspace inside e i.args)
            (Child.microseconds i.timeout) grace
          ({ t with root := k.root }, .started b)
    | .ok _ => (t, .refused FileTree.Cause.notDirectory.text)

end TestWeaver.Shell
