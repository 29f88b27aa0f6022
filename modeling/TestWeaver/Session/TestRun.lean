import TestWeaver.Child.Run
import TestWeaver.Session.Basic

/-!
Running a project's tests in a session, with every step in the log.
-/

namespace TestWeaver.Session

/-- Starts a command: the files that it leaves behind, and the child. -/
abbrev Launcher := FileTree → Build.Invocation → FileTree × Child.Start

/-- Writes the log of a child. -/
def logChild : List Child.Event → Act Unit
  | [] => return
  | .logged level message :: es => do
    Act.log level "build.runner" message
    logChild es
  | _ :: es => logChild es

def announcement (tool : Build.Tool) (target : Option Text) : Text :=
  "Running ".toList ++ tool.name ++ " tests".toList ++
    (match target with
      | some (c :: s) => " for ".toList ++ c :: s
      | _ => [])

/-- Runs the tests of a project, or those of one target. -/
def runTests (launch : Launcher) (root : Path) (settings : Build.Settings)
    (target : Option Text) : Act Build.Result := do
  let (tool, i) ← Act.look fun t => Build.prepare t false root settings target
  Act.log .info "build" (announcement tool target)
  let (t, start) := launch (← get).tree i
  let (events, reply) := Child.reply i start
  modify fun s => { s with tree := t }
  logChild events
  let output ← Act.ofExcept reply
  Act.log .debug "build.output" (tool.name ++ " output:\n".toList ++ output)
  let result := Build.result tool settings output
  Act.log .info "build" ("Tests ".toList ++ (if result.passed then "passed" else "failed").toList)
  return result

end TestWeaver.Session
