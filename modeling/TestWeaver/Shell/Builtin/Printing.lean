import TestWeaver.Shell.Builtin.Variables
import TestWeaver.Utility.Printf

/-!
Builtins that print, and those that only answer.
-/

namespace TestWeaver.Shell

def echoArgs : Builtin := fun _ _ args => do
  say (Utility.echo (flavour (← get)) args)
  setStatus 0

/-- Takes a variable to print to from the front of the arguments. -/
def printTarget (args : List Text) : Sh (Option Text × List Text) := do
  let s ← get
  if s.bash then
    let (os, rest) ← options "v:" args
    match os.getLast? with
    | some (_, name) =>
      if !isName (splitSubscript name).1 then
        refused 2 ('\x60' :: name ++ "': not a valid identifier".toList)
      return (some name, rest)
    | none => return (none, rest)
  else
    let (_, rest) ← options "" args
    return (none, rest)

/-- What a time in seconds looks like; negative ones mean now, and when the shell was started. -/
def timeText (now start : Nat) (format : Text) (seconds : Int) : Text :=
  let seconds : Int :=
    if seconds = -1 then Utility.epoch + (now / 1000000 : Nat)
    else if seconds = -2 then Utility.epoch + (start / 1000000 : Nat)
    else seconds
  let format := if format = [] then "%X".toList else format
  Utility.momentText (Moment.ofSeconds seconds 0) seconds format

def printFormat : Builtin := fun _ _ args => do
  let s ← get
  let (target, rest) ← printTarget args
  match rest with
  | [] =>
    if s.bash then
      sayUsage
      setStatus 2
    else fail "usage: printf format [arg ...]".toList
  | f :: rest =>
    let now ← clock
    let p := Utility.print (flavour s) f rest (timeText now s.startTime)
    for c in p.complaints do
      complain c
    let finish : Sh Unit :=
      match target with
      | some name => assignTo .idle wordFuel name p.text
      | none => say p.text
    match p.fault with
    | some m =>
      if s.bash then
        complain m
        finish
        setStatus 1
      else
        complain m
        finish
        setStatus 2
        throw .failed
    | none =>
      finish
      setStatus (if p.failed then 1 else 0)

/-- Tests a condition. `bracket` says that a closing one must stand at the end. -/
def testCondition (bracket : Bool) : Builtin := fun _ _ args => do
  let s ← get
  let refuse : Text → Sh Unit := fun m => do
    complain m
    setStatus 2
  if bracket && args.getLast? ≠ some [']'] then
    refuse (if s.bash then "missing \x60]'".toList else "missing ]".toList)
  else
    let ws := if bracket then args.dropLast else args
    let t : FileTree ← Sh.call .look
    let isSet := fun n => (s.lookup? n).isSome
    let isOn := fun n => isOn s.options (String.ofList n)
    match Utility.holds { flavour := flavour s, tree := t, isSet := isSet, isOn := isOn } ws with
    | .ok b => setStatus (if b then 0 else 1)
    | .error (.message m) => refuse m

def succeed : Builtin := fun _ _ _ => setStatus 0

def giveUp : Builtin := fun _ _ _ => setStatus 1

end TestWeaver.Shell
