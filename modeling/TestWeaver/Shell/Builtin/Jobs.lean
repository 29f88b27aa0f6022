import TestWeaver.Shell.Output

/-!
Builtins about signals and other processes.
-/

namespace TestWeaver.Shell

open Machine (Ending Waited Proc)

/-- The number of a signal that is given by number or name, from a least one on. -/
def signal? (bash : Bool) (least : Nat) (t : Text) : Option Nat :=
  if t ≠ [] && t.all Char.isDigit then
    let n := Arithmetic.valueIn 10 t
    if n < Machine.Signal.count then some n else none
  else
    let u := t.map Char.toUpper
    let u := if bash then (Text.after? "SIG".toList u).getD u else t
    (Machine.Signal.ofName? u).filter (least ≤ ·)

/-- What traps are about in bash besides signals. -/
def occasions : List (String × Nat) :=
  [("DEBUG", trapDebug), ("ERR", trapFailure), ("RETURN", trapReturn)]

/-- What a trap is to be about. -/
def occasion? (bash : Bool) (t : Text) : Option Nat :=
  match if bash then occasions.lookup (String.ofList (t.map Char.toUpper)) else none with
  | some n => some n
  | none => signal? bash 0 t

/-! ### traps -/

def trapRow (bash : Bool) (n : Nat) (text : Text) : Text :=
  "trap -- ".toList ++ (if bash then bashQuoted text else requoted text) ++ ' ' ::
    (match occasions.find? fun o => o.2 = n with
      | some (name, _) => name.toList
      | none => (if bash && n ≠ 0 then "SIG".toList else []) ++ Machine.Signal.name n) ++ ['\n']

def listTraps (wanted : Nat → Bool) : Sh Unit := do
  let s ← get
  let rows := (s.traps.filter fun t => wanted t.1).mergeSort fun a b => a.1 ≤ b.1
  say (rows.flatMap fun (n, text) => trapRow s.bash n text)

def setTrap (action : Option Text) (n : Nat) : Sh Unit := do
  modify fun s => { s with
    traps := (action.map fun t => (n, t)).toList ++ s.traps.filter fun t => t.1 ≠ n
    trapOwner := if n = trapFailure then s.calls.length else s.trapOwner }
  if n ≠ 0 && n < trapDebug then
    Sh.call (.handle n (match action with
      | none => .usual
      | some [] => .ignored
      | some _ => .caught))

def setTraps (action : Option Text) : List Text → Sh Unit
  | [] => setStatus 0
  | t :: ts => do
    let bash := (← get).bash
    match occasion? bash t with
    | none =>
      if bash then
        complain (t ++ ": invalid signal specification".toList)
        setTraps action ts
      else put 2 ("trap: ".toList ++ t ++ ": bad trap\n".toList)
      setStatus 1
    | some n =>
      setTrap action n
      setTraps action ts

/-- All signals in rows of five. -/
def signalTable : Text :=
  (List.range 64).flatMap fun i =>
    let n := i + 1
    let digits := Raw.ofNat n
    let isUnnamed := n = 32 || n = 33
    if isUnnamed then []
    else
      let place := if n < 32 then n else n - 2
      (if digits.length < 2 then [' '] else []) ++ digits ++ ") SIG".toList ++ Machine.Signal.name n ++
        if place % 5 = 0 then ['\n'] else if n = 64 then ['\t', '\n'] else ['\t']

def trapSignals : Builtin := fun _ _ args => do
  let s ← get
  let (os, args) ← options (if s.bash then "lp" else "") args
  if hasOption 'l' os then
    say signalTable
    setStatus 0
    return
  match args with
  | [] =>
    listTraps fun _ => true
    setStatus 0
  | a :: rest =>
    if hasOption 'p' os then
      listTraps fun n => args.any fun t => occasion? s.bash t = some n
      setStatus 0
    else
      let isNumber := a ≠ [] && a.all Char.isDigit
      if s.bash && rest = [] && !isNumber && (occasion? true a).isNone then
        sayUsage
        setStatus 2
      else if rest = [] || isNumber then setTraps none args
      else setTraps (if a = ['-'] then none else some a) rest

/-! ### signals -/

def killUsage : Text :=
  ("Usage: kill [-s sigspec | -signum | -sigspec] [pid | job]... or\n" ++
    "kill -l [exitstatus]").toList

/-- The process that a text means: a number, perhaps with a minus sign, or a job. -/
def target (t : Text) : Sh (Option Int) := do
  let s ← get
  match t with
  | '%' :: r =>
    let n := Arithmetic.valueIn 10 r
    match s.jobs[n - 1]?.filter fun j => j.ending.isNone with
    | some j => return some j.id
    | none =>
      if s.bash then
        complain (t ++ ": no such job".toList)
        return none
      else fail ("No such job: ".toList ++ t)
  | '-' :: r => do
    if s.bash && !(r ≠ [] && r.all Char.isDigit) then
      setStatus 1
      complain (t ++ ": arguments must be process or job IDs".toList)
      return none
    else return some (-((← natural r) : Int))
  | _ =>
    if s.bash && !(t ≠ [] && t.all Char.isDigit) then
      complain (t ++ ": arguments must be process or job IDs".toList)
      return none
    else return some (← natural t)

def sendAll (n : Nat) : List Text → Sh Unit
  | [] => return
  | t :: ts => do
    match ← target t with
    | none => setStatus 1
    | some id =>
      if !(← (Sh.call (.kill id n) : Sh Bool)) then
        if (← get).bash then complain ('(' :: t ++ ") - No such process".toList)
        else complain "No such process\n".toList
        setStatus 1
    sendAll n ts

def listSignals : List Text → Sh Unit
  | [] => do
    if (← get).bash then say signalTable
    else say ("0\n".toList ++ (List.range 64).flatMap fun i => Machine.Signal.name (i + 1) ++ ['\n'])
    setStatus 0
  | t :: _ => do
    let bash := (← get).bash
    if bash && !t.all Char.isDigit then
      match signal? true 0 t with
      | some n => say (Raw.ofNat n ++ ['\n'])
      | none => refused 1 (t ++ ": invalid signal specification".toList)
    else
      let n ← natural t
      let n := if 128 < n then n - 128 else n
      if 0 < n && n < Machine.Signal.count then say (Machine.Signal.name n ++ ['\n'])
      else if bash then refused 1 (t ++ ": invalid signal specification".toList)
      else fail ("invalid signal number or exit status: ".toList ++ t)
    setStatus 0

def sendSignals : Builtin := fun _ _ args => do
  let bash := (← get).bash
  let usage : Sh Unit := do
    if bash then
      sayUsage
      setStatus 2
    else fail killUsage
  match args with
  | [] => usage
  | a :: rest =>
    let direct : Option Nat := if a.head? = some '-' then signal? bash 1 (a.drop 1) else none
    let (listed, signal, ids) : Bool × Option Nat × List Text ←
      match direct, a with
      | some n, _ => pure (false, some n, rest)
      | none, '-' :: c :: cs => do
        if bash && c ≠ 's' && c ≠ 'l' && c ≠ 'L' && c ≠ 'n' && a ≠ "--".toList then
          refused 1 (c :: cs ++ ": invalid signal specification".toList)
        if bash && (c = 's' || c = 'n') && cs = [] && rest = [] then
          refused 1 ('-' :: c :: ": option requires an argument".toList)
        let args := if bash && c = 'L' then "-l".toList :: rest else args
        let (os, ids) ← options "ls:n:" args
        match (os.find? fun o => o.1 = 's' || o.1 = 'n').map (·.2) with
        | none => pure (hasOption 'l' os, none, ids)
        | some t =>
          match signal? bash 1 t with
          | some n => pure (hasOption 'l' os, some n, ids)
          | none =>
            if bash then refused 1 (t ++ ": invalid signal specification".toList)
            else fail ("invalid signal number or name: ".toList ++ t)
      | none, _ => pure (false, none, args)
    if listed then
      if signal.isSome then usage else listSignals ids
    else if ids = [] then usage
    else
      setStatus 0
      sendAll (signal.getD 15) ids

/-! ### waiting -/

def setEnding (id : Nat) (e : Ending) : Sh Unit :=
  modify fun s => { s with
    jobs := s.jobs.map fun j => if j.id = id then { j with ending := some e } else j }

/-- Waits for a child, or for any; a signal that is caught breaks the waiting off. -/
def waitOnce (who : Option Nat) : Sh Waited := Sh.call (.wait who true)

/-- The status after a signal that broke off waiting. -/
def brokenOff : Sh Unit := do
  let signals : List Nat ← Sh.call .signals
  let n := signals.headD 0
  setStatus (128 + n)
  for n in signals do
    let me : Nat ← Sh.call .self
    let _ ← Sh.call (.kill me n)

def waitAll : Sh Unit :=
  Proc.repeatWhile (do
    if (← get).jobs.all fun j => j.ending.isSome then
      setStatus 0
      return false
    match ← waitOnce none with
    | .ended id e =>
      setEnding id e
      return true
    | .nobody =>
      setStatus 0
      return false
    | .interrupted =>
      brokenOff
      return false) Proc.ages

def jobOf (t : Text) : Sh (Option Job) := do
  let s ← get
  if s.bash && t.head? ≠ some '%' && !(t ≠ [] && t.all Char.isDigit) then
    refused 1 ('\x60' :: t ++ "': not a pid or valid job spec".toList)
  match t with
  | '%' :: r =>
    match s.jobs[Arithmetic.valueIn 10 r - 1]? with
    | some j => return some j
    | none => if s.bash then return none else fail ("No such job: ".toList ++ t)
  | _ =>
    let id ← natural t
    return s.jobs.find? fun j => j.id = id

def waitEach : List Text → Sh Unit
  | [] => return
  | t :: ts => do
    match ← jobOf t with
    | none =>
      if (← get).bash then
        if t.head? = some '%' then complain (t ++ ": no such job".toList)
        else complain ("pid ".toList ++ t ++ " is not a child of this shell".toList)
      setStatus 127
      waitEach ts
    | some j =>
      match j.ending with
      | some e =>
        setStatus (statusOf e)
        waitEach ts
      | none =>
        match ← waitOnce (some j.id) with
        | .ended _ e =>
          setEnding j.id e
          if !(← get).bash then sayEnding e
          setStatus (statusOf e)
          waitEach ts
        | .nobody =>
          setStatus 127
          waitEach ts
        | .interrupted => brokenOff

def waitJobs : Builtin := fun _ _ args => do
  let (os, args) ← options (if (← get).bash then "nfp:" else "") args
  if hasOption 'n' os then
    match ← waitOnce none with
    | .ended id e =>
      setEnding id e
      setStatus (statusOf e)
    | _ => setStatus 127
  else if args = [] then waitAll
  else waitEach args

def listJobs : Builtin := fun _ _ args => do
  let _ ← options (if (← get).bash then "lnprsx" else "lp") args
  setStatus 0

def noCurrentJob : Builtin := fun _ _ _ => do
  if (← get).bash then refused 1 "no job control".toList else fail "No current job".toList

/-- Forgets jobs. -/
def disownJobs : Builtin := fun _ _ args => do
  let (os, ids) ← options "ahr" args
  setStatus 0
  let s ← get
  if hasOption 'a' os || hasOption 'r' os then set { s with jobs := [] }
  else
    let missing := fun (t : Text) => refused 1 (t ++ ": no such job".toList)
    match ids with
    | [] =>
      if s.jobs.all fun j => j.ending.isSome then missing "current".toList
      else set { s with jobs := s.jobs.dropLast }
    | t :: _ =>
      match ← jobOf t with
      | none => missing t
      | some j => if !hasOption 'h' os then set { s with jobs := s.jobs.filter fun k => k.id ≠ j.id }

def suspendShell : Builtin := fun _ _ args => do
  let _ ← options "f" args
  refused 1 "cannot suspend: no job control".toList

def processTimes : Builtin := fun _ _ _ => do
  if (← get).bash then say "0m0.000s 0m0.000s\n0m0.000s 0m0.000s\n".toList
  else say "0m0.000000s 0m0.000000s\n0m0.000000s 0m0.000000s\n".toList
  setStatus 0

def limits : Builtin := fun _ _ args => do
  let bash := (← get).bash
  let (os, rest) ← options (if bash then "HSabcdefiklmnpqrstuvxPRT" else "HSatfdsmcnpvlwr") args
  if let t :: _ := rest then
    let isLimit := t.all Char.isDigit || ["unlimited", "hard", "soft"].any fun w => w.toList = t
    if bash && !isLimit then refused 1 (t ++ ": invalid number".toList)
  if rest = [] then
    let t := if hasOption 'c' os then "0\n" else if hasOption 'n' os then "1048576\n"
      else "unlimited\n"
    say t.toList
  setStatus 0

end TestWeaver.Shell
