import TestWeaver.Machine.Search
import TestWeaver.Utility.System

/-!
Programs that start other programs.
-/

namespace TestWeaver.Utility

open Machine (Ending Executable Proc Refusal Waited Work)

/-- What a program does that is started with arguments and variables. -/
abbrev Starter := Executable → List Text → List (Text × Text) → Work

def searchPath : Text := "PATH".toList

/-- The paths that a name may mean. -/
def pathsOf (env : List (Text × Text)) (name : Text) : List Text :=
  if name.contains '/' then [name]
  else
    (Text.splitAt ':' ((env.lookup searchPath).getD "/bin:/usr/bin".toList)).map fun d =>
      if d = [] then name else d ++ '/' :: name

def rawly (e : Executable) : Executable :=
  ⟨Raw.ofText e.program, Raw.ofText e.self, e.leading.map Raw.ofText⟩

/-- What a command name leads to. A file that is no program and names none is a script. -/
def find (t : FileTree) (env : List (Text × Text)) (name : Text) : Except Refusal Executable :=
  let step := fun (acc : Except Refusal Executable) path =>
    match acc with
    | .ok e => .ok e
    | .error old =>
      match Machine.executable t (Raw.toText path) with
      | .ok e =>
        let e := rawly e
        .ok (if e.leading = [] then { e with self := name } else e)
      | .error .noFormat => .ok ⟨"sh".toList, path, [path]⟩
      | .error r => .error (if old = .files .accessDenied then old else r)
  (pathsOf env name).foldl step (.error (.files .noEntry))

def isAbsence (r : Refusal) : Bool := r = .files .noEntry || r = .files .notDirectory

/-- Becomes another program, or says why not. -/
def become (start : Starter) (name : Text) (args : List Text) (env : List (Text × Text)) :
    Act Refusal := do
  match find (← look) env name with
  | .ok e => Proc.become fun _ => start e args env
  | .error r => return r

/-- Runs another program and waits for it. -/
def runOther (start : Starter) (name : Text) (args : List Text) (env : List (Text × Text))
    (close : List Nat) (refused : Refusal → Act Unit) : Act Ending := do
  let child : Act Unit := do
    for n in close do call (.close n)
    let r ← become start name args env
    refused r
    flush
  let s ← get
  let work := child { s with buffer := [], size := 0, status := 0 }
    (fun _ s => Work.ended (.exited s.status)) fun n _ => .ended (.exited n)
  let pid ← Proc.fork fun _ => work
  match ← (call (.wait (some pid) false) : Act Waited) with
  | .ended _ e => return e
  | _ => return .exited 0

/-! ### env -/

def refusedStart (r : Refusal) : Nat := if isAbsence r then 127 else 126

def setVariable (env : List (Text × Text)) (name value : Text) : List (Text × Text) :=
  if env.any fun v => v.1 = name then env.map fun v => if v.1 = name then (name, value) else v
  else env ++ [(name, value)]

/-- The words of a text, with quotes and backslashes as in a script. -/
def envWords : Nat → Text → Text → Bool → List Text
  | 0, _, _, _ => []
  | _ + 1, [], acc, inWord => if inWord then [acc] else []
  | n + 1, c :: r, acc, inWord =>
    if c = '\'' then
      let t := r.takeWhile (· ≠ '\'')
      envWords n (r.drop (t.length + 1)) (acc ++ t) true
    else if c = '"' then
      let t := r.takeWhile (· ≠ '"')
      envWords n (r.drop (t.length + 1)) (acc ++ t) true
    else if Real.isBlank c then
      (if inWord then [acc] else []) ++ envWords n r [] false
    else envWords n r (acc ++ [c]) true
where
  Real.isBlank := Decimal.Real.isBlank

/-- Arguments in one text are taken apart. -/
def splitArgs : List Text → List Text
  | ('-' :: 'S' :: t) :: rest =>
    if t ≠ [] then envWords (2 * t.length + 2) t [] false ++ rest
    else
      match rest with
      | t :: rest => envWords (2 * t.length + 2) t [] false ++ rest
      | [] => []
  | args =>
    match args with
    | a :: rest =>
      match Text.after? "--split-string=".toList a with
      | some t => envWords (2 * t.length + 2) t [] false ++ rest
      | none => args
    | [] => []

def env (start : Starter) : Program := fun args => do
  let args := splitArgs args
  let args := match args with
    | ['-'] :: rest => "-i".toList :: rest
    | _ => args
  let (os, rest) ← parse [⟨'i', "ignore-environment", false, false⟩, ⟨'0', "null", false, false⟩,
    ⟨'u', "unset", true, false⟩, ⟨'C', "chdir", true, false⟩, ⟨'v', "debug", false, false⟩,
    ⟨'S', "split-string", true, false⟩] args true 125
  let old := (← get).env
  let vars := if has os 'i' then [] else old
  let vars := vars.filter fun v => !os.any fun o => o.letter = 'u' && o.text = v.1
  let settings := rest.takeWhile fun a => a.contains '='
  let vars := settings.foldl (fun vs a =>
    match Text.cut? ['='] a with
    | some (n, v) => setVariable vs n v
    | none => vs) vars
  if let some dir := valueOf os 'C' then
    let t ← look
    match FileTree.follow t.root t.here true (Raw.toText dir) with
    | .ok (place, some (.dir _)) =>
      let _ ← change fun t => .ok { t with here := place }
    | .ok (_, some _) =>
      die ("cannot change directory to ".toList ++ inQuotes dir ++ ": Not a directory".toList) 125
    | .ok (_, none) =>
      die ("cannot change directory to ".toList ++ inQuotes dir ++
        ": No such file or directory".toList) 125
    | .error c =>
      die ("cannot change directory to ".toList ++ inQuotes dir ++ ": ".toList ++ c.text) 125
  match rest.drop settings.length with
  | [] => vars.forM fun v => emit (variableLine v ++ if has os '0' then [Char.ofNat 0] else ['\n'])
  | name :: args =>
    match find (← look) (if (vars.lookup searchPath).isSome then vars else old.filter fun _ => false)
        name with
    | .ok e => Proc.become fun _ => start e args vars
    | .error r =>
      complain (curly name ++ ": ".toList ++ r.text)
      exit (refusedStart r)

/-! ### timeout, nohup, setsid -/

def cannotRun {α : Type} (name : Text) (r : Refusal) : Act α := do
  complain ("failed to run command ".toList ++ curly name ++ ": ".toList ++ r.text)
  exit (refusedStart r)

/-- Runs a program that is sent a signal if it takes too long. -/
def timeout (start : Starter) : Program := fun args => do
  let (os, rest) ← parse [⟨'k', "kill-after", true, false⟩, ⟨'s', "signal", true, false⟩,
    ⟨'f', "foreground", false, false⟩, ⟨'p', "preserve-status", false, false⟩,
    ⟨'v', "verbose", false, false⟩] args true 125
  match rest with
  | [] | [_] =>
    tryHelp
    exit 125
  | limit :: name :: args =>
    let some time := span? limit
      | misuse ("invalid time interval ".toList ++ curly limit) 125
    let signal ←
      match valueOf os 's' with
      | none => pure 15
      | some t =>
        match signal? t with
        | some n => pure n
        | none => misuse (curly t ++ ": invalid signal".toList) 125
    let later ←
      match valueOf os 'k' with
      | none => pure none
      | some t =>
        match span? t with
        | some n => pure (some n)
        | none => misuse ("invalid time interval ".toList ++ curly t) 125
    let alone := has os 'f'
    if !alone then call .lead
    let began : Nat ← (call .clock : Act Nat)
    let env := (← get).env
    let child : Act Unit := do
      let r ← become start name args env
      cannotRun name r
    let s ← get
    let pid ← Proc.fork fun _ => child s (fun _ _ => Work.ended (.exited 0)) fun n _ =>
      .ended (.exited n)
    call (.handle 15 .caught)
    call (.handle 17 .caught)
    call (.handle signal .ignored)
    let target : Int := if alone then pid else 0
    let clock : Act Unit := do
      if time ≠ 0 then
        call (.sleep time)
        let _ ← (call (.kill target signal) : Act Bool)
        if signal ≠ 9 then
          let _ ← (call (.kill target 18) : Act Bool)
        if let some n := later then
          call (.sleep n)
          let _ ← (call (.kill target 9) : Act Bool)
    let watch ← Proc.fork fun _ => clock { s with buffer := [], size := 0 }
      (fun _ _ => Work.ended (.exited 0)) fun _ _ => .ended (.exited 0)
    let ended : Waited ← call (.wait (some pid) false)
    let now : Nat ← (call .clock : Act Nat)
    let _ ← (call (.kill watch 9) : Act Bool)
    let _ ← (call (.wait (some watch) false) : Act Waited)
    match ended with
    | .ended _ e =>
      let late := time ≠ 0 && began + time ≤ now
      let status := match e with
        | .exited n => n
        | .killed n => 128 + n
      if late && !has os 'p' then
        exit (match e with
          | .killed 9 => 137
          | _ => 124)
      else
        match e with
        | .killed n =>
          if late then exit status
          else
            call (.handle n .usual)
            let me : Nat ← (call .self : Act Nat)
            let _ ← (call (.kill me n) : Act Bool)
            exit status
        | .exited _ => exit status
    | _ => return

def nohup (start : Starter) : Program := fun args => do
  let (_, rest) ← parse [] args true 125
  match rest with
  | [] => missingOperand 125
  | name :: args =>
    call (.handle 1 .ignored)
    let r ← become start name args (← get).env
    cannotRun name r

/-- Runs a program that gives way to others, which nobody notices. -/
def nice (start : Starter) : Program := fun args => do
  let args := match args with
    | ('-' :: c :: cs) :: rest =>
      if isDigits (if c = '-' || c = '+' then cs else c :: cs) then ("-n".toList ++ c :: cs) :: rest else args
    | _ => args
  let (os, rest) ← parse [⟨'n', "adjustment", true, false⟩] args true 125
  if let some t := valueOf os 'n' then
    if (integer? t).isNone then die ("invalid adjustment ".toList ++ curly t) 125
  match rest with
  | [] =>
    if os ≠ [] then misuse "a command must be given with an adjustment".toList 125
    emitLine ['0']
  | name :: args =>
    let r ← become start name args (← get).env
    complain (curly name ++ ": ".toList ++ r.text)
    exit (refusedStart r)

/-- Runs a program whose buffers have other sizes, which nobody notices. -/
def stdbuf (start : Starter) : Program := fun args => do
  let (os, rest) ← parse [⟨'i', "input", true, false⟩, ⟨'o', "output", true, false⟩,
    ⟨'e', "error", true, false⟩] args true 125
  match rest with
  | [] => missingOperand 125
  | name :: args =>
    if os = [] then misuse "you must specify a buffering mode option".toList 125
    let r ← become start name args (← get).env
    cannotRun name r

def setsid (start : Starter) : Program := fun args => do
  let (_, rest) ← parse [⟨'c', "ctty", false, false⟩, ⟨'f', "fork", false, false⟩,
    ⟨'w', "wait", false, false⟩] args true
  match rest with
  | [] => die "no command specified".toList
  | name :: args =>
    call .lead
    let r ← become start name args (← get).env
    complain ("failed to execute ".toList ++ name ++ ": ".toList ++ r.text)
    exit (refusedStart r)

/-! ### xargs -/

/-- The words of the input as xargs reads them; nothing if a quote is not closed. -/
def xargsWords : Nat → Text → Text → Bool → Except Char (List Text)
  | 0, _, _, _ => .ok []
  | _ + 1, [], acc, inWord => .ok (if inWord then [acc] else [])
  | n + 1, c :: r, acc, inWord =>
    if c = '\'' || c = '"' then
      let t := r.takeWhile fun d => d ≠ c && d ≠ '\n'
      match r.drop t.length with
      | d :: r => if d = c then xargsWords n r (acc ++ t) true else .error c
      | [] => .error c
    else if c = '\\' then
      match r with
      | d :: r => xargsWords n r (acc ++ [d]) true
      | [] => xargsWords n [] acc inWord
    else if c = ' ' || c = '\t' || c = '\n' then do
      let rest ← xargsWords n r [] false
      return if inWord then acc :: rest else rest
    else xargsWords n r (acc ++ [c]) true

def replaceAll (old new : Text) : Nat → Text → Text
  | 0, t => t
  | n + 1, t =>
    match Text.cut? old t with
    | some (a, b) => a ++ new ++ replaceAll old new n b
    | none => t

/-- A list in pieces of a size. -/
def pieces {α : Type} (size : Nat) : Nat → List α → List (List α)
  | 0, _ => []
  | n + 1, xs => if xs.isEmpty then [] else xs.take size :: pieces size n (xs.drop size)

def xargs (start : Starter) : Program := fun args => do
  let (os, rest) ← parse [⟨'0', "null", false, false⟩, ⟨'a', "arg-file", true, false⟩,
    ⟨'d', "delimiter", true, false⟩, ⟨'E', "", true, false⟩, ⟨'I', "", true, false⟩,
    ⟨'i', "replace", true, true⟩, ⟨'L', "max-lines", true, false⟩,
    ⟨'n', "max-args", true, false⟩, ⟨'P', "max-procs", true, false⟩,
    ⟨'r', "no-run-if-empty", false, false⟩, ⟨'s', "max-chars", true, false⟩,
    ⟨'t', "verbose", false, false⟩, ⟨'x', "exit", false, false⟩] args true
  let t ←
    match ← readFile ((valueOf os 'a').getD ['-']) with
    | .ok t => pure t
    | .error e =>
      die ("Cannot open input file ".toList ++ curly ((valueOf os 'a').getD []) ++ ": ".toList ++ e.text)
  let mark : Option Char :=
    if has os '0' then some (Char.ofNat 0)
    else (valueOf os 'd').bind fun d => ((unescape .tool .format d).1).head?
  let replaced : Option Text :=
    match valueOf os 'I' with
    | some r => some r
    | none => if has os 'i' then some ((valueOf os 'i').filter (· ≠ []) |>.getD "\x7b\x7d".toList) else none
  let words ←
    match mark with
    | some m =>
      let ws := Text.splitAt m t
      pure (if ws.getLast? = some [] then ws.dropLast else ws)
    | none =>
      if replaced.isSome then
        pure (((plainRows t).map fun r => r.dropWhile Decimal.Real.isBlank).filter (· ≠ []))
      else
        match xargsWords (t.length + 2) t [] false with
        | .ok ws => pure ws
        | .error c =>
          die ("unmatched ".toList ++ (if c = '"' then "double" else "single").toList ++
            " quote; by default quotes are special to xargs unless you use the -0 option".toList)
  let command := if rest = [] then ["echo".toList] else rest
  let name := command.headD []
  let calls : List (List Text) :=
    match replaced with
    | some r => words.map fun w =>
        command.map fun a => replaceAll r w (a.length + 1) a
    | none =>
      let size := match valueOf os 'n' with
        | some n => max 1 (number n)
        | none =>
          match valueOf os 'L' with
          | some n => max 1 (number n)
          | none => words.length + 1
      if words = [] then (if has os 'r' then [] else [command])
      else (pieces size words.length words).map (command ++ ·)
  let env := (← get).env
  let _ ← calls.foldlM (fun (on : Bool) argv => do
    if !on then return false
    if has os 't' then
      let _ ← putRaw 2 (List.intercalate [' '] argv ++ ['\n'])
    let e ← runOther start (argv.headD []) (argv.drop 1) env [] fun r => do
      complain ((argv.headD []) ++ ": ".toList ++ r.text)
      exit (refusedStart r)
    match e with
    | .exited 0 => return true
    | .exited 255 =>
      complain (name ++ ": exited with status 255; aborting".toList)
      setStatus 124
      return false
    | .exited 126 =>
      setStatus 126
      return false
    | .exited 127 =>
      setStatus 127
      return false
    | .exited _ =>
      setStatus 123
      return true
    | .killed n =>
      complain (name ++ ": terminated by signal ".toList ++ Raw.ofNat n)
      setStatus 125
      return false) true

end TestWeaver.Utility
