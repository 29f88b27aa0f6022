import TestWeaver.Build.Invocation
import TestWeaver.Build.Summary

/-!
Test runs as a state machine.

A run is checked before anything is started: the target's name first, then the build tool. What
fails there leaves the state alone. The reply to the started command decides the new state: a
build that fails is a result, and only a command that could not run is a failure.
-/

namespace TestWeaver.Build

inductive RunState where
  | idle
  | running
  | succeeded
  | failed
  | timedOut
  | launchError
deriving DecidableEq, Repr

/-- What starting a command comes to: the text it wrote, or why there is none. -/
abbrev Reply := Except Failure Text

/-- The tool and the command of a run. -/
def prepare (t : FileTree) (windows : Bool) (root : Path) (settings : Settings)
    (target : Option Text) : Except Failure (Tool × Invocation) := do
  checkTarget target
  let tool ← Tool.detect t root
  let i ← invocation t windows root tool target settings.timeout
  return (tool, i)

/-- The state that a started run ends in. A failure that is none of the command's leaves it
running. -/
def RunState.after (result : Except Failure Result) : RunState :=
  match result with
  | .ok r => if r.passed then succeeded else failed
  | .error (.timedOut _ _) => timedOut
  | .error (.launch _ _ _) => launchError
  | .error _ => running

/-- One run: the state behind it, its result, and the command if one was started. -/
structure Turn where
  state : RunState
  result : Except Failure Result
  started : Option Invocation

/-- One run after a state, the command being answered by `reply`. -/
def run (t : FileTree) (windows : Bool) (root : Path) (settings : Settings) (before : RunState)
    (target : Option Text) (reply : Invocation → Reply) : Turn :=
  match prepare t windows root settings target with
  | .error e => ⟨before, .error e, none⟩
  | .ok (tool, i) =>
    let outcome := (reply i).map (result tool settings)
    ⟨.after outcome, outcome, some i⟩

/-- Runs one after another, each with its own tree, target and reply. -/
def turns (windows : Bool) (root : Path) (settings : Settings) (before : RunState) :
    List (FileTree × Option Text × (Invocation → Reply)) → List Turn
  | [] => []
  | (t, target, reply) :: rs =>
    let turn := run t windows root settings before target reply
    turn :: turns windows root settings turn.state rs

end TestWeaver.Build
