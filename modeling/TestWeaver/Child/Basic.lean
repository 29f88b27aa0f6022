import TestWeaver.Build.Run
import TestWeaver.Decimal.Notation
import TestWeaver.Log.Record

/-!
Child processes: what one can do, and what is recorded of a run of one.

A child leads a group of its own, which has the child's number, and is read through two pipes.
Others in the group can hold these open when the child itself has ended.
-/

namespace TestWeaver.Child

open Build (Invocation)

inductive Pipe where
  | output
  | errors
deriving DecidableEq, Repr

def pipes : List Pipe := [.output, .errors]

inductive Signal where
  | terminate
  | kill
deriving DecidableEq, Repr

/-- What sending a signal to the group comes to. -/
inductive Delivery where
  | sent
  | noGroup
  | notPermitted
deriving DecidableEq, Repr

/-- What waiting for a child comes to. -/
inductive Wait where
  | ended (output errors : Text) (exitCode : Int)
  | late
  | broke (failure : Failure)
deriving DecidableEq, Repr

/-- A running child: what waiting for it comes to, and how it takes being ended. -/
structure Behaviour where
  id : Nat
  wait : Wait
  /-- The pipes that are at their end when waiting fails. -/
  shut : List Pipe := []
  /-- The exit code of a child that has ended when waiting fails. -/
  gone : Option Int := none
  delivery : Signal → Delivery := fun _ => .sent
  /-- Whether the child ends in time once it is asked to. -/
  yields : Bool := true
  /-- Whether the pipes are let go in time once the group is killed. -/
  drains : Bool := true

/-- What starting a child comes to. -/
inductive Start where
  | refused (reason : Text)
  | failed (failure : Failure)
  | started (child : Behaviour)

inductive Event where
  | logged (level : Log.Level) (message : Text)
  | signalled (group : Nat) (signal : Signal) (delivery : Delivery)
  | waited (ended : Bool)
  | drained (done : Bool)
  | closed (pipe : Pipe)
deriving DecidableEq, Repr

/-! ### what is logged -/

def number (n : Int) : Text := Decimal.integer n

def commandText (i : Invocation) : Text := List.intercalate [' '] i.argv

def running (i : Invocation) : Event :=
  .logged .debug ("Running ".toList ++ commandText i ++ " in ".toList ++ i.dir)

def exceeded (i : Invocation) : Event :=
  .logged .warning ("Command exceeded ".toList ++ Decimal.whole i.timeout ++
    " seconds; terminating: ".toList ++ commandText i)

def ignored (b : Behaviour) : Event :=
  .logged .debug ("Process ".toList ++ number b.id ++ " ignored termination; killing".toList)

def stillOpen (b : Behaviour) : Event :=
  .logged .warning ("Output pipes of process ".toList ++ number b.id ++
    " still open; closing them".toList)

def exitedText (code : Option Int) : Text :=
  "Command exited with code ".toList ++ (code.map number).getD "None".toList

/-! ### timeouts -/

def second : Nat := 1000000

/-- Whether a number is above `num / den`. -/
def exceeds (x : Binary64) (num den : Nat) : Bool :=
  match x with
  | .finite false m e => num * (Binary64.ratio m e).2 < (Binary64.ratio m e).1 * den
  | .infinite negative => !negative
  | _ => false

/-- Why a child cannot be waited for that long, nothing of the timeout having passed yet. -/
def waitFault? (timeout : Binary64) : Option Failure :=
  match timeout with
  | .nan => some (.value "cannot convert float NaN to integer".toList)
  | .infinite false => some (.overflow "cannot convert float infinity to integer".toList)
  | x =>
    if exceeds x (Nat.pow 2 63) (Nat.pow 10 9) then
      some (.overflow "timestamp too large to convert to C _PyTime_t".toList)
    else if exceeds x 2147483647 1000 then some (.overflow "timeout is too large".toList)
    else none

/-- A timeout in microseconds, rounded down. -/
def microseconds (timeout : Binary64) : Nat :=
  match timeout with
  | .finite false m e => (Binary64.ratio m e).1 * second / (Binary64.ratio m e).2
  | _ => 0

end TestWeaver.Child
