import TestWeaver.Machine.Programs
import TestWeaver.Machine.Work

/-!
What a command name leads to: a program of the machine, or a script with its interpreter.
-/

namespace TestWeaver.Machine

open FileTree (Cause Node)

/-- A program, the name it is started by, and the arguments that stand in front of those given. -/
structure Executable where
  program : Text
  self : Text
  leading : List Text
deriving DecidableEq, Repr

def octetsText (bs : Utf8.Octets) : Text := Utf8.decodeLossy bs

def isBlank (c : Char) : Bool := c = ' ' || c = '\t'

/-- The interpreter that the first line of a file names behind two characters, and the one
argument that may follow it. -/
def interpreterLine? : Text → Option (Text × List Text)
  | '#' :: '!' :: s =>
    let line := (s.takeWhile (· ≠ '\n')).dropWhile isBlank
    let line := (line.reverse.dropWhile isBlank).reverse
    let path := line.takeWhile fun c => !isBlank c
    let rest := (line.drop path.length).dropWhile isBlank
    if path = [] then none else some (path, if rest = [] then [] else [rest])
  | _ => none

/-- The node at a path that is to be run, which must be a file that may be. -/
def runnable (t : FileTree) (path : Text) : Except Refusal Utf8.Octets :=
  match FileTree.follow t.root t.here true path with
  | .error c => .error (.files c)
  | .ok (_, none) => .error (.files .noEntry)
  | .ok (_, some (.file bs true)) => .ok bs
  | .ok _ => .error (.files .accessDenied)

/-- How many scripts may be interpreted by one another. -/
def interpreterDepth : Nat := 5

/-- What a path leads to when it is run, through the interpreters of so many scripts. -/
def executableWithin (t : FileTree) (path : Text) : Nat → Except Refusal Executable
  | 0 => .error (.files .linkLoop)
  | n + 1 => do
    let bs ← runnable t path
    match programIn? bs with
    | some p => return ⟨p, path, []⟩
    | none =>
      match interpreterLine? (octetsText bs) with
      | none => .error .noFormat
      | some (i, args) =>
        let e ← executableWithin t i n
        return { e with leading := e.leading ++ args ++ [path] }

def executable (t : FileTree) (path : Text) : Except Refusal Executable :=
  executableWithin t path interpreterDepth

/-- Where a name without a slash is looked for: first among the workspace's own programs. -/
def searchPaths (workspace : Path) (name : Text) : List Text :=
  [workspace.toText ++ "/bin".toList, "/usr/bin".toList, "/bin".toList].map fun d =>
    d ++ '/' :: name

/-- Tries paths in turn. A refusal other than that nothing is there is remembered; if all fail,
the first such refusal is the answer, or else the last one. -/
def firstExecutable (t : FileTree) (remembered : Option Refusal) (last : Refusal) :
    List Text → Except Refusal Executable
  | [] => .error (remembered.getD last)
  | p :: ps =>
    match executable t p with
    | .ok e => .ok e
    | .error r =>
      let isAbsence := r = .files .noEntry || r = .files .notDirectory
      firstExecutable t (if isAbsence then remembered else remembered.or (some r)) r ps

/-- What a command name leads to. A program that is no script is started by the name given. -/
def search (t : FileTree) (workspace : Path) (name : Text) : Except Refusal Executable := do
  let e ← firstExecutable t none (.files .noEntry)
    (if name.contains '/' then [name] else searchPaths workspace name)
  return if e.leading = [] then { e with self := name } else e

end TestWeaver.Machine
