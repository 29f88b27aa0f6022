import TestWeaver.FileTree.Files
import TestWeaver.Text.Raw

/-!
What processes do.

Work is a tree of calls to the system, each with what follows every answer. A process keeps a
state of its own while it does it; `Proc` is how work is written down.
-/

namespace TestWeaver.Machine

open FileTree (Cause)

/-- The path that a raw text names. -/
def pathOf (s : Text) : Path := Path.ofText (Raw.toText s)

/-- How a file is opened. One that is `fresh` must not be there as a file yet. -/
inductive Mode where
  | read
  | write
  | append
  | both
  | fresh
deriving DecidableEq, Repr

/-- Why the system refuses a call. -/
inductive Refusal where
  | files (cause : Cause)
  | noFormat
  | badStream
  | brokenPipe
  | noSpace
deriving DecidableEq, Repr

def Refusal.text : Refusal → Text
  | files c => c.text
  | noFormat => "Exec format error".toList
  | badStream => "Bad file descriptor".toList
  | brokenPipe => "Broken pipe".toList
  | noSpace => "No space left on device".toList

inductive Ending where
  | exited (status : Nat)
  | killed (signal : Nat)
deriving DecidableEq, Repr

/-- What a process does about a signal. -/
inductive Disposition where
  | usual
  | ignored
  | caught
deriving DecidableEq, Repr

/-- What waiting for another process comes to. -/
inductive Waited where
  | ended (id : Nat) (e : Ending)
  | nobody
  | interrupted
deriving DecidableEq, Repr

/-- What a process asks of the system. Streams are known by their numbers. -/
inductive Call where
  /-- At most so many octets; none at the end. -/
  | read (stream most : Nat)
  /-- Octets up to a mark and with it, or as far as they are there. -/
  | readTo (stream : Nat) (mark : Char)
  | write (stream : Nat) (s : Text)
  | openAs (stream : Nat) (path : Text) (mode : Mode)
  /-- Makes another number for a stream, the first free one from `least`. -/
  | another (stream least : Nat)
  | copy (source target : Nat)
  | close (stream : Nat)
  | pipe
  | isOpen (stream : Nat)
  /-- The size of the file that a stream leads to, if it leads to one. -/
  | sizeOf (stream : Nat)
  /-- Goes back in a file. -/
  | seek (stream : Nat) (back : Nat)
  | look
  | change (f : FileTree → FileTree.Outcome FileTree)
  | pass (time : Nat)
  | sleep (time : Nat)
  | wait (id : Option Nat) (breakable : Bool)
  | kill (target : Int) (signal : Nat)
  | handle (signal : Nat) (d : Disposition)
  | handling (signal : Nat)
  /-- The caught signals that came since this was last asked. -/
  | signals
  | self
  | parent
  | lead
  | clock

def Call.Answer : Call → Type
  | read .. | readTo .. => Except Refusal Text
  | write .. | openAs .. | copy .. => Except Refusal Unit
  | another .. => Except Refusal Nat
  | pipe => Nat × Nat
  | isOpen _ | kill .. => Bool
  | sizeOf _ => Option Nat
  | look => FileTree
  | change _ => FileTree.Outcome Unit
  | seek .. | close _ | pass _ | sleep _ | handle .. | lead => Unit
  | wait .. => Waited
  | handling _ => Disposition
  | signals => List Nat
  | self | parent | clock => Nat

inductive Work where
  | ended (e : Ending)
  | call (c : Call) (next : c.Answer → Work)
  | fork (child : Work) (next : Nat → Work)

/-- Work with a state, which goes on with an `α` or is left with an `ε`. -/
def Proc (σ ε α : Type) : Type := σ → (α → σ → Work) → (ε → σ → Work) → Work

namespace Proc

variable {σ ε α β : Type}

@[inline] protected def pure (a : α) : Proc σ ε α := fun s k _ => k a s

@[inline] protected def bind (p : Proc σ ε α) (f : α → Proc σ ε β) : Proc σ ε β :=
  fun s k l => p s (fun a s => f a s k l) l

instance : Monad (Proc σ ε) where
  pure := Proc.pure
  bind := Proc.bind

instance : MonadStateOf σ (Proc σ ε) where
  get := fun s k _ => k s s
  set := fun s _ k _ => k () s
  modifyGet := fun f s k _ => k (f s).1 (f s).2

instance : MonadExceptOf ε (Proc σ ε) where
  throw := fun e s _ l => l e s
  tryCatch := fun p h s k l => p s k fun e s => h e s k l

instance [Inhabited ε] : Inhabited (Proc σ ε α) := ⟨throw default⟩

@[inline] def call (c : Call) : Proc σ ε c.Answer := fun s k _ => .call c fun a => k a s

/-- Ends the process. -/
def halt (e : Ending) : Proc σ ε α := fun _ _ _ => .ended e

/-- Starts a process that does other work. -/
def fork (child : σ → Work) : Proc σ ε Nat := fun s k _ => .fork (child s) fun id => k id s

/-- Does other work in place of all that would follow. -/
def become (t : σ → Work) : Proc σ ε α := fun s _ _ => t s

/-- Runs with another state and goes on with the old one. -/
def withState {τ ε' : Type} (s : τ) (p : Proc τ ε' α) (onLeave : ε' → Proc σ ε α) : Proc σ ε α :=
  fun t k l => p s (fun a _ => k a t) fun e _ => onLeave e t k l

/-- Repeats an action as long as it says so, but not for ever. -/
def repeatWhile (p : Proc σ ε Bool) : Nat → Proc σ ε Unit
  | 0 => pure ()
  | n + 1 => p >>= fun go => if go then repeatWhile p n else pure ()

/-- Repeats an action on a value until it gives a result. -/
def iterate (f : β → Proc σ ε (β ⊕ α)) (last : α) : Nat → β → Proc σ ε α
  | 0, _ => pure last
  | n + 1, b => f b >>= fun
    | .inl b => iterate f last n b
    | .inr a => pure a

/-- A bound on the turns of a loop that is never reached. -/
def ages : Nat := 1000000000000

end Proc

end TestWeaver.Machine
