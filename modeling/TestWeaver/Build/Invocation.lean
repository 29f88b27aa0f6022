import TestWeaver.Build.Target
import TestWeaver.Build.Tool

/-!
The command that runs a project's tests: the wrapper script at the root if there is one, and
the arguments that narrow the run to a target.
-/

namespace TestWeaver.Build

/-- A command line, run without a shell. -/
structure Invocation where
  command : Text
  args : List Text
  dir : Text
  timeout : Binary64
deriving DecidableEq, Repr

def Invocation.argv (i : Invocation) : List Text := i.command :: i.args

/-- Names of a tool's wrapper script: as a file on most systems, as a file on Windows. -/
structure Wrapper where
  script : Text
  batch : Text
  fallback : Text

def Tool.wrapper? : Tool → Option Wrapper
  | .gradle => some ⟨"gradlew".toList, "gradlew.bat".toList, "gradle".toList⟩
  | .maven => some ⟨"mvnw".toList, "mvnw.cmd".toList, "mvn".toList⟩
  | .unknown => none

/-- The executable of a tool. Either wrapper at the root is reason enough to use the one of this
system. -/
def command (t : FileTree) (windows : Bool) (root : Path) (tool : Tool) : Except Failure Text :=
  match tool.wrapper? with
  | none => .error (.noCommand tool.name)
  | some w =>
    let wrapped :=
      (t.exists? (root / Path.ofText w.script)).bind fun b =>
        if b then .ok true else t.exists? (root / Path.ofText w.batch)
    match wrapped with
    | .error e => .error (.files e)
    | .ok true => .ok (if windows then w.batch else '.' :: '/' :: w.script)
    | .ok false => .ok w.fallback

def arguments (tool : Tool) : Option Text → Except Failure (List Text)
  | none => .ok ["test".toList]
  | some target =>
    match tool with
    | .gradle => .ok ["test".toList, "--tests".toList, target, "--info".toList]
    | .maven => .ok ["test".toList, "-Dtest=".toList ++ target]
    | .unknown => .error (.noArguments tool.name)

def checkTarget (target : Option Text) : Except Failure Unit :=
  match target with
  | some name => if isTarget name then .ok () else .error (.invalidTarget name)
  | none => .ok ()

/-- The invocation that runs all tests of a root, or those of one target. -/
def invocation (t : FileTree) (windows : Bool) (root : Path) (tool : Tool)
    (target : Option Text) (timeout : Binary64) : Except Failure Invocation := do
  checkTarget target
  let command ← command t windows root tool
  let args ← arguments tool target
  return ⟨command, args, root.toText, timeout⟩

end TestWeaver.Build
