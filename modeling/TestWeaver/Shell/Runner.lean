import TestWeaver.Machine.Search
import TestWeaver.Machine.Signal
import TestWeaver.Shell.Expansion

/-!
How commands are run by those that hold others: texts, traps, children.
-/

namespace TestWeaver.Shell

open Machine (Ending Executable Proc Refusal Work)

/-- How a command is run: whether nothing follows it in its process, whether it is a part of
another command there, and whether it is only asked whether it succeeds. -/
structure Flags where
  last : Bool := false
  inner : Bool := false
  tested : Bool := false
deriving DecidableEq, Repr

/-- What runs commands, and what a program does that is started with arguments and variables. -/
structure Runner where
  command : Flags → Command → Sh Unit
  program : Executable → List Text → List (Text × Text) → Work

/-- Does what has to be done in the end, whether an action goes on or is left. -/
def ensure {α : Type} (p : Sh α) (cleanUp : Sh Unit) : Sh α := do
  let a ← tryCatch p fun e => do
    cleanUp
    throw e
  cleanUp
  return a

/-! ### texts -/

/-- What bash says of a text that is no script. -/
def sayFault (front : Text) (e : ScriptFault) (row : Text) : Sh Unit := do
  let place := fun (line : Nat) => front ++ "line ".toList ++ Raw.ofNat line ++ ": ".toList
  if let some (line, m) := e.first then put 2 (place line ++ m ++ ['\n'])
  put 2 (place e.line ++ e.message ++ ['\n'])
  if Text.startsWith e.message "syntax error near".toList then
    put 2 (place e.line ++ inQuotes row ++ ['\n'])
  setStatus 2

/-- Says that a text is no script, and in a plain shell gives up. -/
def scriptFault (text : Text) (start : Nat) (e : ScriptFault) : Sh Unit := do
  let s ← get
  if s.bash then
    let front : Text := s.scripts.headD s.name ++ ": ".toList ++
      (if let some b := s.builtin then b ++ ": ".toList
        else if s.options.command && s.scripts = [] then "-c: ".toList else [])
    let e := if e.line = 0 then { e with line := start } else e
    sayFault front e ((Text.rows text).getD (e.line - start) [])
  else
    modify fun s => { s with line := e.line, functionLine := 0 }
    let message := if e.message = "Bad substitution".toList then e.message
      else "Syntax error: ".toList ++ e.message
    fail message

/-- Runs the commands of a list one after another. -/
def runAll (r : Runner) (f : Flags) : List Command → Sh Unit
  | [] => return
  | [c] => r.command f c
  | c :: cs => do
    r.command { f with last := false } c
    runAll r f cs

/-- What is said of a script before it runs. -/
def sayWarnings : List (Nat × Text) → Sh Unit
  | [] => return
  | (line, m) :: rest => do
    let s ← get
    put 2 (s.scripts.headD s.name ++ ": line ".toList ++ Raw.ofNat line ++ ": ".toList ++ m ++ ['\n'])
    sayWarnings rest

/-- Runs the next line of a source; says at the end whether there were any commands. -/
def runLine (r : Runner) (f : Flags) (text : Text) : Source × Bool → Sh (Source × Bool ⊕ Bool) :=
  fun (src, ran) => do
    let s ← get
    let src := { src with
      aliases := if s.bash && !s.hasSetting "expand_aliases" then [] else s.aliases
      extended := isExtended s, nextBody := s.nextBody, bodies := [], warnings := [] }
    match readLine.run src with
    | .error e =>
      scriptFault text 1 e
      return .inr true
    | .ok (none, _) => return .inr ran
    | .ok (some cs, next) =>
      modify fun s => { s with bodies := next.bodies ++ s.bodies, nextBody := next.nextBody }
      sayWarnings next.warnings.reverse
      let atEnd := (next.again && next.last = .ending) || (s.bash && next.rest = [])
      if s.options.echoing then
        put 2 (src.rest.take (src.rest.length - next.rest.length))
      if s.bash then modify fun s => { s with builtin := none }
      if !s.options.reading then runAll r { f with last := f.last && atEnd } cs
      if s.bash then modify fun t => { t with builtin := s.builtin }
      return .inl (next, ran || !cs.isEmpty)

/-- A text as bash reads it: its last line has an end, too. -/
def wholeRows (bash : Bool) (text : Text) : Text :=
  if bash && text ≠ [] && text.getLast? ≠ some '\n' then text ++ ['\n'] else text

/-- Runs a text. A text without commands succeeds. -/
def runText (r : Runner) (f : Flags) (text : Text) : Sh Unit := do
  let bash := (← get).bash
  let text := wholeRows bash text
  let src : Source := { rest := text, bash := bash }
  if !(← Proc.iterate (runLine r f text) true Proc.ages (src, false)) then setStatus 0

/-! ### traps and the end -/

/-- What traps are also about besides signals: each command, each failure, and each return. -/
def trapDebug : Nat := 65

def trapFailure : Nat := 66

def trapReturn : Nat := 67

/-- Runs what a trap says that is about no signal; the status stays. -/
def runTrap (r : Runner) (n : Nat) : Sh Unit := do
  let s ← get
  match s.traps.lookup n with
  | none | some [] => return
  | some text =>
    modify fun s => { s with traps := s.traps.filter fun t => t.1 ≠ n }
    runText r {} text
    modify fun t => { t with
      status := s.status
      traps := if t.traps.any fun u => u.1 = n then t.traps else (n, text) :: t.traps }

/-- Runs what traps say about the signals that came. -/
def runTraps (r : Runner) : Sh Unit := do
  let s ← get
  if s.traps.any fun t => t.1 ≠ 0 && t.1 < trapDebug && t.2 ≠ [] then
    let signals : List Nat ← Sh.call .signals
    for n in signals do
      match (← get).traps.lookup n with
      | none | some [] => pure ()
      | some text =>
        let before := (← get).status
        runText r {} text
        setStatus before

/-- Ends a shell: what is to be done at the end is done before. -/
def exitWork (r : Runner) (s : State) : Work :=
  let leave := fun (n : Nat) => Work.ended (.exited (n % 256))
  match s.traps.lookup 0 with
  | none | some [] => leave s.status
  | some text =>
    let s' := { s with traps := s.traps.filter fun t => t.1 ≠ 0 }
    runText r {} text s' (fun _ _ => leave s.status) fun e t =>
      match e with
      | .exited | .failed => leave t.status
      | _ => leave s.status

/-- The work of a shell that runs something to its end. -/
def shellWork (r : Runner) (p : Sh Unit) (s : State) : Work :=
  p s (fun _ s => exitWork r s) fun _ s => exitWork r s

/-- What a new process forgets of the shell that it comes from. -/
def forget : Sh Unit := do
  let s ← get
  for (n, text) in s.traps do
    if n ≠ 0 && n < trapDebug && text ≠ [] then Sh.call (.handle n .usual)
  for n in s.kept do
    Sh.call (.close n)
  modify fun s => { s with
    traps := s.traps.filter fun t => t.2 = [], kept := [], jobs := [], inside := s.inside + 1, loops := 0 }

/-- Starts a process that runs something in a copy of the shell. -/
def startChild (r : Runner) (p : Sh Unit) : Sh Nat :=
  Proc.fork (shellWork r (do
    forget
    p))

def statusOf : Ending → Nat
  | .exited n => n
  | .killed n => 128 + n

/-- Signals whose work is not spoken of. -/
def isQuiet (signal : Nat) : Bool := signal = 2 || signal = 13

/-- Says which signal has ended a child. -/
def sayEnding : Ending → Sh Unit
  | .exited _ => return
  | .killed n => do
    if !isQuiet n then
      if (← get).bash then
        put 2 ((← get).sign ++ Machine.Signal.description n ++ ['\n'])
      else put 2 (Machine.Signal.description n ++ ['\n'])

/-- Waits for a child. -/
def await (id : Nat) : Sh Nat := do
  match ← (Sh.call (.wait (some id) false) : Sh Machine.Waited) with
  | .ended _ e =>
    sayEnding e
    return statusOf e
  | _ => return 0

/-- Reads all that comes from a stream. -/
def readAll (stream : Nat) : Sh Text := do
  let pieces ← Proc.iterate (fun (acc : List Text) => do
    match ← (Sh.call (.read stream 65536) : Sh (Except Refusal Text)) with
    | .ok [] | .error _ => return .inr acc
    | .ok t => return .inl (t :: acc)) [] Proc.ages []
  return pieces.reverse.flatten

def dropNewlines (t : Text) : Text := (t.reverse.dropWhile (· = '\n')).reverse

def makePipe : Sh (Nat × Nat) := Sh.call .pipe

/-- Whether commands only say where their output comes from. -/
def isCopy : List Command → Bool
  | [.simple _ [] [] [.file 0 .read _ _]] => true
  | _ => false

/-- The output of commands, run in a process of their own. -/
def outputOf (r : Runner) (cs : List Command) : Sh Text := do
  let (a, b) ← makePipe
  let id ← startChild r do
    Sh.call (.close a)
    let _ ← Sh.call (.copy b 1)
    Sh.call (.close b)
    modify fun s => { s with copying := s.bash && isCopy cs, indirection := s.indirection + 1 }
    if (← get).bash && !(← get).hasSetting "inherit_errexit" then
      modify fun s => { s with options := { s.options with failing := false } }
    runAll r { last := true } cs
  Sh.call (.close b)
  let t ← readAll a
  Sh.call (.close a)
  let status ← await id
  modify fun s => { s with status := status, outputStatus := status }
  return dropNewlines (t.filter (· ≠ Char.ofNat 0))

/-- The greatest number of a stream that is free, from one downwards. -/
def freeBelow : Nat → Sh Nat
  | 0 => return 0
  | n + 1 => do
    let taken : Bool ← Sh.call (.isOpen (n + 1))
    if taken then freeBelow n else return n + 1

/-- The name of a stream to which commands write, or from which they read. -/
def channelOf (r : Runner) (toRead : Bool) (cs : List Command) : Sh Text := do
  let (a, b) ← makePipe
  let _ ← startChild r do
    let (own, other, target) := if toRead then (b, a, 1) else (a, b, 0)
    Sh.call (.close other)
    let _ ← Sh.call (.copy own target)
    Sh.call (.close own)
    runAll r { last := true } cs
  let (kept, given) := if toRead then (a, b) else (b, a)
  Sh.call (.close given)
  let n ← freeBelow 63
  let _ ← Sh.call (.copy kept n)
  Sh.call (.close kept)
  modify fun s => { s with channels := n :: s.channels }
  return "/dev/fd/".toList ++ Raw.ofNat n

/-- Lets the streams go that stood in for names in words. -/
def dropChannels (before : List Nat) : Sh Unit := do
  let s ← get
  for n in s.channels do
    if !before.contains n then Sh.call (.close n)
  modify fun s => { s with channels := before }

def expander (r : Runner) : Expander := ⟨outputOf r, channelOf r⟩

end TestWeaver.Shell
