import TestWeaver.Machine.Work

/-!
Processes side by side.

The one whose own time is the least goes on; each call takes it a little time. A call that
cannot be answered yet is tried again after each call that could change that. What is written to
the outer world is kept in order.
-/

namespace TestWeaver.Machine

open FileTree (Node Place Cause)

/-- What a stream leads to. The outer world reads the output and the errors. -/
inductive Object where
  | file (place : Place)
  | dir
  | pipe (id : Nat)
  | null
  | zeros
  | full
  | world (errors : Bool)
deriving DecidableEq, Repr

/-- An open stream, which several processes may share. -/
structure Stream where
  object : Object
  offset : Nat := 0
  append : Bool := false
  readable : Bool := false
  writable : Bool := false

/-- What is in a pipe: what was written last comes first in `back`. -/
structure Pipe where
  front : List Text := []
  back : List Text := []
  size : Nat := 0
deriving Inhabited

structure Chunk where
  isError : Bool
  octets : Text

inductive Doing where
  | ready (t : Work)
  | waiting (c : Call) (next : c.Answer → Work)
  /-- Sleeping until the own time of the process. -/
  | asleep (t : Work)
  | stopped (d : Doing)
  | ended (e : Ending)

structure Process where
  parent : Nat
  group : Nat
  time : Nat
  doing : Doing
  streams : List (Nat × Nat)
  here : Place
  dispositions : List (Nat × Disposition) := []
  caught : List Nat := []

instance : Inhabited Process := ⟨⟨0, 0, 0, .ended (.exited 0), [], [], [], []⟩⟩

/-- Things known by their numbers. -/
abbrev Table (α : Type) := List (Nat × α)

/-- Changes the thing of a number. -/
def Table.change {α : Type} (n : Nat) (f : α → α) : Table α → Table α
  | [] => []
  | (m, a) :: t => if m = n then (m, f a) :: t else (m, a) :: Table.change n f t

structure Kernel where
  root : Node
  home : Path
  processes : Table Process := []
  streams : Table Stream := []
  pipes : Table Pipe := []
  /-- The number of the next process. -/
  nextId : Nat
  /-- The number of the next stream or pipe. -/
  nextNumber : Nat := 0
  /-- The last chunk first. -/
  chunks : List Chunk := []

namespace Kernel

def get (k : Kernel) (id : Nat) : Process := (k.processes.lookup id).getD default

def update (k : Kernel) (id : Nat) (f : Process → Process) : Kernel :=
  { k with processes := Table.change id f k.processes }

def put (k : Kernel) (id : Nat) (p : Process) : Kernel := k.update id fun _ => p

def tree (k : Kernel) (p : Process) : FileTree := { root := k.root, here := p.here, home := k.home }

def stream? (k : Kernel) (p : Process) (n : Nat) : Option (Nat × Stream) :=
  (p.streams.lookup n).bind fun d => (k.streams.lookup d).map (d, ·)

def setStream (k : Kernel) (d : Nat) (s : Stream) : Kernel :=
  { k with streams := Table.change d (fun _ => s) k.streams }

/-- Whether a process has a stream that is as asked. -/
def anyStream (k : Kernel) (f : Stream → Bool) : Bool :=
  k.processes.any fun (_, p) => p.streams.any fun (_, d) => ((k.streams.lookup d).map f).getD false

def hasWriter (k : Kernel) (pipe : Nat) : Bool :=
  k.anyStream fun s => s.object = .pipe pipe && s.writable

def hasReader (k : Kernel) (pipe : Nat) : Bool :=
  k.anyStream fun s => s.object = .pipe pipe && s.readable

/-- Whether a process still holds a stream to the outer world. -/
def holdsWorld (k : Kernel) : Bool :=
  k.anyStream fun s =>
    match s.object with
    | .world _ => true
    | _ => false

/-! ### signals -/

def signalKill : Nat := 9

def signalPipe : Nat := 13

def signalTerminate : Nat := 15

def signalContinue : Nat := 18

def signalStop : Nat := 19

/-- Signals that nobody minds unless asked to: of a child, of a window, of urgent data. -/
def isHarmless (signal : Nat) : Bool := signal = 17 || signal = 23 || signal = 28

/-- Signals that stop a process. -/
def isStopping (signal : Nat) : Bool := 19 ≤ signal && signal ≤ 22

def disposition (p : Process) (signal : Nat) : Disposition :=
  if signal = signalKill || signal = signalStop then .usual
  else (p.dispositions.lookup signal).getD .usual

/-- Forgets streams that no process holds, and pipes without streams. -/
def collect (k : Kernel) : Kernel :=
  let held := k.processes.flatMap fun (_, p) => p.streams.map (·.2)
  let streams := k.streams.filter fun (d, _) => held.contains d
  { k with
    streams := streams
    pipes := k.pipes.filter fun (n, _) => streams.any fun (_, s) => s.object = .pipe n }

/-- A process that has ended holds nothing any more. -/
def finish (k : Kernel) (id : Nat) (e : Ending) : Kernel :=
  (k.update id fun p => { p with doing := .ended e, streams := [] }).collect

/-- Signals that a stopped process has not seen yet wait with it. -/
def deliver (k : Kernel) (time : Nat) (signal id : Nat) : Kernel :=
  let p := k.get id
  let ended := fun (k : Kernel) =>
    let k := match p.doing with
      | .ready _ => k
      | _ => k.put id { p with time := time }
    k.finish id (.killed signal)
  match p.doing with
  | .ended _ => k
  | .stopped d =>
    if signal = signalKill then ended k
    else if signal = signalContinue then
      k.put id { p with doing := d, time := max p.time time }
    else if disposition p signal = .ignored then k
    else k.put id { p with caught := p.caught ++ [signal] }
  | _ =>
    match disposition p signal with
    | .ignored => k
    | .caught => k.put id { p with caught := p.caught ++ [signal] }
    | .usual =>
      if isHarmless signal || signal = signalContinue then k
      else if isStopping signal then k.put id { p with doing := .stopped p.doing }
      else ended k

/-- The processes that a target means: one, a whole group, or the sender's own group. -/
def targets (k : Kernel) (p : Process) (target : Int) : List Nat :=
  let wanted : Nat × Process → Bool := fun (id, q) =>
    if 0 < target then id = target.toNat
    else if target = -1 then true
    else q.group = if target = 0 then p.group else (-target).toNat
  (k.processes.filter wanted).map (·.1)

/-! ### streams -/

/-- What can be read from a place at most so far. -/
def slice (s : Text) (offset most : Nat) : Text := (s.drop offset).take most

/-- The text with another one laid over it. -/
def overlay (s : Text) (offset : Nat) (new : Text) : Text :=
  let before := s.take offset
  before ++ List.replicate (offset - before.length) (Char.ofNat 0) ++ new ++
    s.drop (offset + new.length)

def content (k : Kernel) (place : Place) : Text :=
  match k.root.get? place with
  | some (.file bs _) => Raw.ofOctets bs
  | _ => []

def setContent (k : Kernel) (place : Place) (s : Text) : Kernel :=
  match k.root.get? place with
  | some (.file _ x) => { k with root := Node.put (.file (Raw.toOctets s) x) place k.root }
  | _ => k

/-- How much a pipe takes in before writers have to wait. -/
def pipeRoom : Nat := 65536

/-- Takes texts while `f` wants more of them: it cuts each in what is taken and what is left. -/
def takeChunks (f : Text → Text × Option Text) : List Text → Text × List Text
  | [] => ([], [])
  | t :: ts =>
    match f t with
    | (a, some b) => (a, b :: ts)
    | (a, none) =>
      let (c, rest) := takeChunks f ts
      (a ++ c, rest)

/-- What a cut leaves over of a text, if anything. -/
def leftOver (s : Text) : Option Text := if s = [] then none else some s

def takeFrom (p : Pipe) (f : List Text → Text × List Text) : Text × Pipe :=
  let (a, front) := f (p.front ++ p.back.reverse)
  (a, ⟨front, [], p.size - a.length⟩)

/-- The first chunk, or so much of it. -/
def takeMost (most : Nat) : List Text → Text × List Text
  | [] => ([], [])
  | t :: ts => if t.length ≤ most then (t, ts) else (t.take most, t.drop most :: ts)

/-- All up to a mark. -/
def takeTo (mark : Char) : List Text → Text × List Text :=
  takeChunks fun t =>
    let a := t.takeWhile (· ≠ mark)
    match t.drop a.length with
    | [] => (a, none)
    | m :: rest => (a ++ [m], some rest)

/-- How zeros are read: in blocks. -/
def block : Nat := 65536

/-- Reads from a stream with the two ways to cut: of a whole content and of a pipe's chunks. -/
def readWith (k : Kernel) (p : Process) (n : Nat) (most : Nat) (cut : Text → Text)
    (chunks : List Text → Text × List Text) : Option (Except Refusal Text × Kernel) :=
  match k.stream? p n with
  | none => some (.error .badStream, k)
  | some (d, s) =>
    if !s.readable then some (.error .badStream, k)
    else
      match s.object with
      | .file place =>
        let t := cut ((k.content place).drop s.offset)
        some (.ok t, k.setStream d { s with offset := s.offset + t.length })
      | .dir => some (.error (.files .isDirectory), k)
      | .null => some (.ok [], k)
      | .zeros | .full => some (.ok (List.replicate (min most block) (Char.ofNat 0)), k)
      | .world _ => some (.error .badStream, k)
      | .pipe id =>
        let pipe := (k.pipes.lookup id).getD {}
        if pipe.size = 0 then (if k.hasWriter id then none else some (.ok [], k))
        else
          let (t, pipe) := takeFrom pipe chunks
          some (.ok t, { k with pipes := Table.change id (fun _ => pipe) k.pipes })

def write (k : Kernel) (p : Process) (id n : Nat) (t : Text) :
    Option (Except Refusal Unit × Kernel) :=
  match k.stream? p n with
  | none => some (.error .badStream, k)
  | some (d, s) =>
    if !s.writable then some (.error .badStream, k)
    else if t = [] then some (.ok (), k)
    else
      match s.object with
      | .file place =>
        let old := k.content place
        let offset := if s.append then old.length else s.offset
        some (.ok (), (k.setContent place (overlay old offset t)).setStream d
          { s with offset := offset + t.length })
      | .full => some (.error .noSpace, k)
      | .dir | .null | .zeros => some (.ok (), k)
      | .world errors => some (.ok (), { k with chunks := ⟨errors, t⟩ :: k.chunks })
      | .pipe pid =>
        if !k.hasReader pid then some (.error .brokenPipe, k.deliver p.time signalPipe id)
        else
          let pipe := (k.pipes.lookup pid).getD {}
          if pipeRoom ≤ pipe.size then none
          else
            some (.ok (), { k with
              pipes := Table.change pid (fun pipe =>
                { pipe with back := t :: pipe.back, size := pipe.size + t.length }) k.pipes })

/-- What a device is when it is opened. -/
inductive Device where
  | object (o : Object)
  | stream (n : Nat)
  | missing

def digits? (s : Text) : Option Nat :=
  if s ≠ [] && s.all Char.isDigit then some (s.foldl (fun n c => 10 * n + (c.toNat - 48)) 0)
  else none

def device? (place : Place) : Option Device :=
  match place with
  | [d, name] =>
    if d ≠ "dev".toList then none
    else if name = "null".toList then some (.object .null)
    else if name = "zero".toList then some (.object .zeros)
    else if name = "full".toList then some (.object .full)
    else if name = "tty".toList then some .missing
    else if name = "stdin".toList then some (.stream 0)
    else if name = "stdout".toList then some (.stream 1)
    else if name = "stderr".toList then some (.stream 2)
    else none
  | [d, f, n] =>
    if d = "dev".toList && f = "fd".toList then (digits? n).map .stream else none
  | _ => none

/-- How many streams are kept before the unused ones are forgotten. -/
def mostStreams : Nat := 100

def addStream (k : Kernel) (id n : Nat) (s : Stream) : Kernel :=
  let d := k.nextNumber
  let k := { k with streams := (d, s) :: k.streams, nextNumber := d + 1 }
  let k := k.update id fun p => { p with streams := (n, d) :: p.streams.filter fun f => f.1 ≠ n }
  if mostStreams < k.streams.length then k.collect else k

def streamOn (o : Object) (m : Mode) : Stream :=
  { object := o, append := m = .append, readable := m = .read || m = .both, writable := m ≠ .read }

/-- Opens what is at a place that was found. -/
def openPlace (k : Kernel) (place : Place) (node : Option Node) (m : Mode) :
    Except Refusal (Kernel × Stream) :=
  match node with
  | some (.dir _) =>
    if m = .read then .ok (k, streamOn .dir m) else .error (.files .isDirectory)
  | some (.link _) => .error (.files .linkLoop)
  | some (.file _ _) =>
    if m = .fresh then .error (.files .exists)
    else .ok (if m = .write then k.setContent place [] else k, streamOn (.file place) m)
  | none =>
    if m = .read then .error (.files .noEntry)
    else
      match k.root.get? place.dropLast with
      | some (.dir _) =>
        if place.getLast? = some [] then .error (.files .isDirectory)
        else .ok ({ k with root := Node.put (.file [] false) place k.root }, streamOn (.file place) m)
      | _ => .error (.files .noEntry)

def openStream (k : Kernel) (p : Process) (path : Text) (m : Mode) :
    Except Refusal (Kernel × Stream) :=
  match FileTree.follow k.root p.here true (Raw.toText path) with
  | .error c => .error (.files c)
  | .ok (place, node) =>
    match device? place with
    | some (.object o) => .ok (k, streamOn o m)
    | some .missing => .error (.files .noEntry)
    | some (.stream n) =>
      match k.stream? p n with
      | none => .error (.files .noEntry)
      | some (_, s) =>
        match s.object with
        | .file place => k.openPlace place (k.root.get? place) m
        | o => .ok (k, streamOn o m)
    | none => k.openPlace place node m

/-- The first free number from one on. -/
def freeFrom (p : Process) (least : Nat) : Nat :=
  ((List.range (p.streams.length + 1)).map (· + least)).find? (fun n => (p.streams.lookup n).isNone)
    |>.getD least

/-! ### calls -/

/-- Finds a child that has ended. -/
def childEnded? (k : Kernel) (id : Nat) (who : Option Nat) : Option (Nat × Ending) :=
  let found := k.processes.filterMap fun (c, p) =>
    match p.doing with
    | .ended e =>
      if p.parent = id && (who.isNone || who = some c) then some (p.time, c, e) else none
    | _ => none
  (found.foldl (fun best f =>
    match best with
    | none => some f
    | some b => if f.1 < b.1 then some f else some b) none).map (·.2)

def hasChild (k : Kernel) (id : Nat) (who : Option Nat) : Bool :=
  k.processes.any fun (c, p) => p.parent = id && (who.isNone || who = some c)

/-- Tries to answer a call; nothing if it has to wait. -/
def attempt (k : Kernel) (id : Nat) (p : Process) : (c : Call) → Option (c.Answer × Kernel)
  | .read n most => k.readWith p n most (·.take most) (takeMost most)
  | .readTo n mark =>
    k.readWith p n 1 (fun t =>
      let a := t.takeWhile (· ≠ mark)
      t.take (a.length + 1)) (takeTo mark)
  | .write n s => k.write p id n s
  | .openAs n path m =>
    match k.openStream p path m with
    | .error r => some (.error r, k)
    | .ok (k, s) => some (.ok (), k.addStream id n s)
  | .another n least =>
    match p.streams.lookup n with
    | none => some (.error .badStream, k)
    | some d =>
      let m := freeFrom p least
      some (.ok m, k.put id { p with streams := (m, d) :: p.streams })
  | .copy source target =>
    match p.streams.lookup source with
    | none => some (.error .badStream, k)
    | some d =>
      some (.ok (), k.put id { p with
        streams := (target, d) :: p.streams.filter fun f => f.1 ≠ target })
  | .close n => some ((), k.put id { p with streams := p.streams.filter fun f => f.1 ≠ n })
  | .pipe =>
    let pipe := k.nextNumber
    let k := { k with pipes := (pipe, {}) :: k.pipes, nextNumber := pipe + 1 }
    let a := freeFrom p 3
    let k := k.addStream id a { object := .pipe pipe, readable := true }
    let b := freeFrom (k.get id) 3
    some ((a, b), k.addStream id b { object := .pipe pipe, writable := true })
  | .isOpen n => some ((p.streams.lookup n).isSome, k)
  | .sizeOf n =>
    some ((k.stream? p n).bind fun (_, s) =>
      match s.object with
      | .file place => some (k.content place).length
      | _ => none, k)
  | .seek n back =>
    some ((), match k.stream? p n with
      | some (d, s) => k.setStream d { s with offset := s.offset - back }
      | none => k)
  | .look => some (k.tree p, k)
  | .change f =>
    match f (k.tree p) with
    | .error e => some (.error e, k)
    | .ok t => some (.ok (), { k with root := t.root }.put id { p with here := t.here })
  | .pass n => some ((), k.put id { p with time := p.time + n })
  | .sleep n => some ((), k.put id { p with time := p.time + n })
  | .wait who breakable =>
    match k.childEnded? id who with
    | some (c, e) => some (.ended c e, { k with processes := k.processes.filter fun q => q.1 ≠ c })
    | none =>
      if breakable && p.caught ≠ [] then some (.interrupted, k)
      else if k.hasChild id who then none
      else some (.nobody, k)
  | .kill target signal =>
    match k.targets p target with
    | [] => some (false, k)
    | ids => some (true, if signal = 0 then k else ids.foldl (fun k i => k.deliver p.time signal i) k)
  | .handle signal d =>
    some ((), k.put id { p with
      dispositions := (signal, d) :: p.dispositions.filter fun x => x.1 ≠ signal })
  | .handling signal => some (disposition p signal, k)
  | .signals => some (p.caught, k.put id { p with caught := [] })
  | .self => some (id, k)
  | .parent => some (p.parent, k)
  | .lead => some ((), k.put id { p with group := id })
  | .clock => some (p.time, k)

/-- Whether an answer to a call could let another process go on. -/
def stirs : Call → Bool
  | .read .. | .readTo .. | .write .. | .openAs .. | .copy .. | .close _ | .kill .. => true
  | _ => false

/-- Gives a process what it does next, unless it was ended or stopped by the call itself. -/
def resume (k : Kernel) (id : Nat) (d : Doing) : Kernel :=
  k.update id fun p =>
    match p.doing with
    | .ended _ => p
    | .stopped _ => { p with doing := .stopped d }
    | _ => { p with doing := d }

/-- Tries the call of a waiting process again. -/
def retry (k : Kernel) (time id : Nat) : Kernel :=
  let p := k.get id
  match p.doing with
  | .waiting c next =>
    match k.attempt id { p with time := max p.time time } c with
    | none => k
    | some (a, k) =>
      (k.update id fun p => { p with time := max p.time time }).resume id (.ready (next a))
  | _ => k

def waitingCount (k : Kernel) : Nat :=
  k.processes.countP fun (_, p) =>
    match p.doing with
    | .waiting .. => true
    | _ => false

/-- Tries the calls of all waiting processes again, as long as one of them can go on. -/
def retryRounds (time : Nat) : Nat → Kernel → Kernel
  | 0, k => k
  | n + 1, k =>
    let k' := k.processes.foldl (fun k q => k.retry time q.1) k
    if k'.waitingCount < k.waitingCount then retryRounds time n k' else k'

def retryAll (k : Kernel) (time : Nat) : Kernel := retryRounds time k.waitingCount k

/-- How long it takes to start a process, for itself and for the one that starts it. -/
def birth : Nat := 300

def birthCare : Nat := 60

/-- The one that takes the children of those that have ended. -/
def nobody : Nat := 1

/-- Children that nobody can wait for any more are forgotten once they have ended. -/
def orphan (k : Kernel) (id : Nat) : Kernel :=
  let ps := k.processes.map fun (c, p) => (c, if p.parent = id then { p with parent := nobody } else p)
  { k with processes := ps.filter fun (_, p) =>
      match p.doing with
      | .ended _ => p.parent ≠ nobody
      | _ => true }

/-- Does the next thing of a process. -/
def stepOf (k : Kernel) (id : Nat) (p : Process) (t : Work) : Kernel :=
  match t with
  | .ended e => ((k.finish id e).orphan id).retryAll p.time
  | .fork child next =>
    let new := k.nextId
    let q := { p with
      parent := id, doing := .ready child, time := p.time + birth, caught := [] }
    let k := k.put id { p with doing := .ready (next new), time := p.time + birthCare }
    { k with processes := k.processes ++ [(new, q)], nextId := new + 1 }
  | .call c next =>
    let p := { p with time := p.time + 1 }
    let k := k.put id p
    match k.attempt id p c with
    | none => k.put id { p with doing := .waiting c next }
    | some (a, k) =>
      let k := k.resume id (match c with
        | .sleep _ => .asleep (next a)
        | _ => .ready (next a))
      if stirs c then k.retryAll p.time else k

/-- The process that goes on next, and its work. -/
def next? (k : Kernel) : Option (Nat × Process × Work) :=
  k.processes.foldl (fun best (id, p) =>
    let mine : Option Work :=
      match p.doing with
      | .ready t | .asleep t => some t
      | _ => none
    match mine, best with
    | some t, none => some (id, p, t)
    | some t, some b => if p.time < b.2.1.time then some (id, p, t) else best
    | none, _ => best) none

/-- Runs until `settled` holds; nothing if that does not come before a deadline, or too many
steps are needed. -/
def run (settled : Kernel → Bool) (deadline : Nat) : Nat → Kernel → Bool × Kernel
  | 0, k => (false, k)
  | n + 1, k =>
    if settled k then (true, k)
    else
      match k.next? with
      | none => (false, k)
      | some (id, p, t) =>
        if deadline ≤ p.time then (false, k)
        else run settled deadline n (k.stepOf id { p with doing := .ready t } t)

def ending? (k : Kernel) (id : Nat) : Option Ending :=
  match (k.get id).doing with
  | .ended e => some e
  | _ => none

/-- All that was written for the outer world. -/
def written (k : Kernel) (errors : Bool) : Text :=
  (k.chunks.reverse.filter fun c => c.isError = errors).flatMap (·.octets)

end Kernel

end TestWeaver.Machine
