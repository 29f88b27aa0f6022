import TestWeaver.Shell.Builtin.Jobs
import TestWeaver.Shell.Builtin.Naming
import TestWeaver.Shell.Builtin.Places
import TestWeaver.Shell.Builtin.Printing
import TestWeaver.Shell.Builtin.Settings
import TestWeaver.Shell.Builtin.Stack
import TestWeaver.Shell.Declaration
import TestWeaver.Shell.Environment
import TestWeaver.Shell.Menu
import TestWeaver.Shell.Redirection
import TestWeaver.Shell.Trace

/-!
Running commands.

`runner` ties the knot: a command is run by what runs the commands in it, up to a depth that no
script reaches without being a shell's death.
-/

namespace TestWeaver.Shell

open FileTree (Node)
open Machine (Ending Executable Proc Refusal Work)

/-! ### programs -/

/-- How long a step of a script and the start of a program take. -/
def stepTime : Nat := 4

def programTime : Nat := 400

/-- What is said of a program that cannot be started, and the status that this is. -/
def refusalOf (s : State) (t : FileTree) (name : Text) (r : Refusal) : Text × Nat :=
  let isAbsent := r = .files .noEntry || r = .files .notDirectory
  if s.bash then
    if isAbsent then
      (if name.contains '/' then name ++ ": ".toList ++ r.text
        else name ++ ": command not found".toList, 127)
    else if (Pattern.nodeAt? t true name).any Node.isDir then (name ++ ": Is a directory".toList, 126)
    else (name ++ ": ".toList ++ r.text, 126)
  else if isAbsent then (name ++ ": not found".toList, 127)
  else (name ++ ": ".toList ++ r.text, 126)

/-- A program as raw texts. -/
def rawly (e : Executable) : Executable :=
  ⟨Raw.ofText e.program, Raw.ofText e.self, e.leading.map Raw.ofText⟩

/-- A script without a line that names its interpreter is run by the shell's own kind. -/
def asScript (s : State) (path : Text) : Executable :=
  ⟨(if s.bash then "bash" else "sh").toList, path, [path]⟩

/-- Becomes a program. What cannot be started ends the process. -/
def becomeProgram (r : Runner) (path name : Text) (args : List Text) : Sh Unit := do
  Sh.call (.pass programTime)
  let t : FileTree ← Sh.call .look
  let s ← get
  for n in s.kept do
    Sh.call (.close n)
  let start := fun (e : Executable) =>
    (Proc.become fun s => r.program e args (s.environment path) : Sh Unit)
  match Machine.executable t (Raw.toText path) with
  | .ok e =>
    let e := rawly e
    start (if e.leading = [] then { e with self := name } else e)
  | .error .noFormat => start (asScript s path)
  | .error e =>
    let (m, status) := refusalOf s t name e
    complain m
    setStatus status
    throw .exited

/-- Runs something in a process of its own and waits for it, unless nothing follows it anyway. -/
def inChild (r : Runner) (f : Flags) (p : Sh Unit) : Sh Unit := do
  if f.last && (← get).traps.all fun t => t.2 = [] then
    if !f.inner then lowerLevel
    p
  else
    let id ← startChild r p
    setStatus (← await id)

/-- Where a program is, remembered if it was looked for. -/
def locateProgram (path : Option Text) (name : Text) : Sh (Option Text) := do
  let s ← get
  if name.contains '/' then return some name
  else
    let t : FileTree ← Sh.call .look
    let known := if s.bash && path.isNone then s.hashed.lookup name else none
    match known.or (whereIs s t path name) with
    | some p =>
      if path.isNone then modify fun s => { s with hashed := State.setEntry name p s.hashed }
      countHit name
      return some p
    | none => return none

def notFound (name : Text) : Sh Unit := do
  let s ← get
  complain (name ++ (if s.bash then ": command not found" else ": not found").toList)
  setStatus 127

/-! ### functions and builtins -/

/-- How deep functions may call one another before the shell dies. -/
def deepest : Nat := 4000

def signalFault : Nat := 11

def runFunction (r : Runner) (f : Flags) (name : Text) (args : List Text) : Command → Sh Unit
  | .define line _ body => do
    let s ← get
    if deepest ≤ s.calls.length then Proc.halt (.killed signalFault)
    set { s with
      params := args, calls := name :: s.calls, locals := [] :: s.locals, loops := 0
      functionLine := line, optionOffset := 0
      callLines := s.line :: s.callLines
      scripts := if s.bash then (s.origins.lookup name).getD [] :: s.scripts else s.scripts
      builtin := if s.bash then none else s.builtin }
    let leave : Sh Unit := modify fun t =>
      let t := restoreLocals t
      { t with
        params := s.params, calls := s.calls, loops := s.loops, functionLine := s.functionLine
        optionOffset := s.optionOffset, scripts := s.scripts, builtin := s.builtin
        callLines := s.callLines, line := if t.bash then s.line else t.line }
    ensure (tryCatch (r.command { f with last := false } body) fun
      | .returned => pure ()
      | e => throw e) leave
  | _ => return

/-- The number of loops or the status that an argument gives. -/
def numberArg (args : List Text) : Sh (Option Nat) := do
  match args with
  | [] => return none
  | a :: _ => return some (← natural a)

def exitShell : Builtin := fun _ _ args => do
  if (← get).bash then
    match args with
    | [] => throw .exited
    | a :: rest =>
      match wholeNumber? a with
      | some n =>
        if rest ≠ [] then tooMany
        setStatus (n % 256).toNat
      | none =>
        complain (a ++ ": numeric argument required".toList)
        setStatus 2
      throw .exited
  else
    if let some n ← numberArg args then setStatus n
    throw .exited

def returnFrom : Builtin := fun _ _ args => do
  let s ← get
  if s.bash && s.calls = [] && s.sourced = 0 then
    complain "can only \x60return' from a function or sourced script".toList
    setStatus 2
  else if s.bash then
    match args with
    | [] => throw .returned
    | a :: _ =>
      match wholeNumber? a with
      | some n => setStatus (n % 256).toNat
      | none =>
        complain (a ++ ": numeric argument required".toList)
        setStatus 2
      throw .returned
  else
    if let some n ← numberArg args then setStatus n
    throw .returned

/-- Leaves loops, or goes on with the next turn of one. -/
def jump (stop : Nat → Stop) : Builtin := fun _ _ args => do
  let s ← get
  if s.bash && s.loops = 0 then
    complain "only meaningful in a \x60for', \x60while', or \x60until' loop".toList
    setStatus 0
  else
    let n ← match args with
      | [] => pure 1
      | a :: rest => do
        if s.bash then
          if rest ≠ [] then tooMany
          if (wholeNumber? a).isNone then
            refuse 128 (a ++ ": numeric argument required".toList)
            throw .exited
        let n ← if s.bash then pure ((wholeNumber? a).getD 0).toNat else natural a
        if n = 0 then
          if s.bash then
            complain (a ++ ": loop count out of range".toList)
            setStatus 1
            throw (.leave s.loops)
          else fail ("Illegal number: ".toList ++ a)
        pure n
    setStatus 0
    if s.loops ≠ 0 then throw (stop (min n s.loops))

/-- Runs a text inside another one. -/
def runInside (r : Runner) (f : Flags) (text : Text) : Sh Unit := do
  let n := (← get).indirection
  modify fun s => { s with indirection := n + 1 }
  ensure (runText r { f with last := false } text) (modify fun s => { s with indirection := n })

/-- The arguments behind the options, of which there are none. -/
def plainArgs (args : List Text) : Sh (Option (List Text)) := do
  if (← get).bash then return (← excused (options "" args)).map (·.2)
  else return some (if args.head? = some "--".toList then args.drop 1 else args)

def evalArgs : Builtin := fun r f args => do
  match ← plainArgs args with
  | none => return
  | some [] => setStatus 0
  | some args =>
    let builtin := (← get).builtin
    let lines := (← get).line
    runInside r f (spaced args)
    modify fun s => { s with builtin := builtin, line := if s.bash then lines else s.line }

/-- The content of a file. -/
def contentAt (t : FileTree) (path : Text) : Except Refusal Text :=
  match FileTree.follow t.root t.here true (Raw.toText path) with
  | .error c => .error (.files c)
  | .ok (_, none) => .error (.files .noEntry)
  | .ok (_, some (.file bs _)) => .ok (Raw.ofOctets bs)
  | .ok (_, some _) => .error (.files .isDirectory)

/-- Where a file is that is to be read as a script: a name without a slash is looked for. -/
def sourcePath (s : State) (t : FileTree) (name : Text) : Option Text :=
  if name.contains '/' then some name
  else
    let found := ((pathDirs s none).map fun d => fileIn d name).find? (isFileAt t)
    if s.bash then found.or (if isFileAt t name then some name else none) else found

/-- What is said of a file that cannot be read as a script. -/
def sourceTrouble (name : Text) (e : Refusal) : Sh Unit := do
  if (← get).bash then
    if e = .files .isDirectory then refuse 1 (name ++ ": is a directory".toList)
    else
      modify fun s => { s with builtin := none }
      refuse 1 (name ++ ": ".toList ++ e.text)
  else fail ("cannot open ".toList ++ name ++ ": ".toList ++ openTrouble false e)

def sourceFile : Builtin := fun r f args => do
  match ← plainArgs args with
  | none => return
  | some [] =>
    if (← get).bash then
      let _ : Option Unit ← excused (misuse "filename argument required".toList)
    else setStatus 0
  | some (name :: rest) =>
    let s ← get
    let t : FileTree ← Sh.call .look
    match sourcePath s t name with
    | none =>
      if s.bash then
        modify fun s => { s with builtin := none }
        refuse 1 (name ++ ": No such file or directory".toList)
      else fail (name ++ ": not found".toList)
    | some path =>
      match contentAt t path with
      | .error e => sourceTrouble name e
      | .ok text =>
        modify fun s => { s with
          builtin := if s.bash then none else some path
          scripts := if s.bash then path :: s.scripts else s.scripts
          sourced := s.sourced + 1
          params := if s.bash && rest ≠ [] then rest else s.params }
        ensure (tryCatch (runInside r { f with tested := false } text) fun
            | .returned => pure ()
            | e => throw e)
          (modify fun u => { u with
            sourced := s.sourced, scripts := s.scripts, line := if s.bash then s.line else u.line
            params := if s.bash && rest ≠ [] then s.params else u.params })

/-- Does nothing and says nothing. -/
def stayQuiet (known : String) : Builtin := fun _ _ args => do
  let _ ← options known args
  setStatus 0

def leaveLogin : Builtin := fun _ _ _ => refused 1 "not login shell: use \x60exit'".toList

/-- Says which line a function was called from. -/
def tellCaller : Builtin := fun _ _ args => do
  let s ← get
  if s.calls = [] then setStatus 1
  else
    let line := Raw.ofNat (s.callLines.headD 0)
    let file := match s.scripts.drop 1 with
      | t :: _ => t
      | [] => "NULL".toList
    if args = [] then
      say (line ++ ' ' :: file ++ ['\n'])
      setStatus 0
    else
      match s.calls.drop 1 with
      | n :: _ =>
        say (line ++ ' ' :: n ++ ' ' :: file ++ ['\n'])
        setStatus 0
      | [] => setStatus 1

/-- Lists builtins, or checks that names are some. -/
def enableNames : Builtin := fun _ _ args => do
  let (_, names) ← options "adnpsf:" args
  let s ← get
  setStatus 0
  if names = [] then
    let all := (specialBuiltins ++ plainBuiltins ++ bashBuiltins).filter (· ≠ "chdir")
    say ((all.mergeSort fun a b => !(b < a)).flatMap fun b => "enable ".toList ++ b.toList ++ ['\n'])
  for n in names do
    if !isBuiltin s n then refuse 1 (n ++ ": not a shell builtin".toList)

/-- Builtins that only bash has. -/
def bashOnly : List (String × Builtin) :=
  [("declare", declareVariables "declare"), ("typeset", declareVariables "declare"),
    ("let", letValues), ("shopt", shellOptions), ("mapfile", mapFile), ("readarray", mapFile),
    ("pushd", pushDir), ("popd", popDir), ("dirs", dirsBuiltin), ("disown", disownJobs),
    ("suspend", suspendShell), ("logout", leaveLogin), ("history", stayQuiet "cd:anrwps"),
    ("fc", stayQuiet "e:lnrs"), ("caller", tellCaller), ("enable", enableNames)]

/-- Builtins by their names. -/
def builtinOf (s : State) (name : Text) : Option Builtin :=
  let bash := s.bash
  match String.ofList name with
  | ":" | "true" => some succeed
  | "false" => some giveUp
  | "." => some sourceFile
  | "source" => if bash then some sourceFile else none
  | "break" => some (jump .leave)
  | "continue" => some (jump .again)
  | "eval" => some evalArgs
  | "exit" => some exitShell
  | "return" => some returnFrom
  | "export" => if bash then some (declareVariables "export") else some exportVariables
  | "readonly" => if bash then some (declareVariables "readonly") else some fixVariables
  | "local" => if bash then some (declareVariables "local") else some localVariables
  | "set" => some setAll
  | "shift" => some shiftParams
  | "times" => some processTimes
  | "trap" => some trapSignals
  | "unset" => some unsetNames
  | "alias" => some aliasNames
  | "unalias" => some unaliasNames
  | "cd" => some changeDir
  | "chdir" => if bash then none else some changeDir
  | "echo" => some echoArgs
  | "getopts" => some getOptions
  | "hash" => some hashNames
  | "jobs" => some listJobs
  | "bg" | "fg" => some noCurrentJob
  | "kill" => some sendSignals
  | "printf" => some printFormat
  | "pwd" => some printDir
  | "read" => some readVariables
  | "test" => some (testCondition false)
  | "[" => some (testCondition true)
  | "type" => some typeNames
  | "ulimit" => some limits
  | "umask" => some maskFiles
  | "wait" => some waitJobs
  | n => if bash then (bashOnly.lookup n) else none

/-- Runs a builtin. A fault in it ends the shell only if it is a special one. -/
def runBuiltin (r : Runner) (f : Flags) (special : Bool) (b : Builtin) (name : Text)
    (args : List Text) : Sh Unit := do
  let before := (← get).builtin
  modify fun s => { s with builtin := some name, unwritten := false }
  let restore : Sh Unit := modify fun s => { s with builtin := before }
  tryCatch (b r f args) fun e => do
    if e = .failed && !special then pure ()
    else
      restore
      throw e
  if (← get).unwritten then
    if (← get).bash then complain "write error: Bad file descriptor".toList
    else complain (name ++ ": I/O error".toList)
    modify fun s => { s with unwritten := false }
    setStatus 1
  restore

/-! ### simple commands -/

/-- Gives an element of an array a text. -/
def assignElement (e : Expander) (name : Text) (index : Word) (append : Bool) (t : Text) : Sh Unit := do
  let s ← get
  match (s.var? name).bind (·.value) with
  | some (.table xs) =>
    let key ← rawTextOf e index
    let old := if append then (xs.lookup key).getD [] else []
    let t ← if isWhole s name then wholeText e t else pure t
    setValue name (.table (State.setEntry key (old ++ t) xs))
  | v =>
    if (← rawTextOf e index).all Arithmetic.isSpace then
      fail (name ++ "[]: bad array subscript".toList)
    let i ← wordSum e index
    let t ← if isWhole s name then wholeText e t else pure t
    let old : Text :=
      match v with
      | some (.items xs) => (State.item? xs i).getD []
      | some (.text u) => if i = 0 then u else []
      | _ => []
    assignItem name i (if append then old ++ t else t)

/-- Sets what stands in front of a command. -/
def applySetting (e : Expander) : Setting → Sh Unit
  | .scalar name append w => do
    let t ← assignedText e w
    if append then appendText name t else assignValue name t
  | .element name index append w => do
    let t ← assignedText e w
    assignElement e name index append t
  | .array name append ws => assignArray e name append ws

def applySettings (e : Expander) : List Setting → Sh Unit
  | [] => return
  | v :: vs => do
    applySetting e v
    applySettings e vs

def Setting.name : Setting → Text
  | .scalar n _ _ | .element n _ _ _ | .array n _ _ => n

/-- Makes variables that a command is told only for the time that it runs. -/
def exportSettings (names : List Text) : Sh Unit :=
  modify fun s => names.foldl (fun s n =>
    match s.var? n with
    | some v => s.putVariable n { v with exported := true }
    | none => s) s

/-- Runs with settings that are taken back afterwards. -/
def withSettings (e : Expander) (vs : List Setting) (p : Sh Unit) : Sh Unit := do
  if vs.isEmpty then p
  else
    let names := vs.map Setting.name
    let s ← get
    let old := names.map fun n => (n, s.var? n)
    applySettings e vs
    exportSettings names
    modify fun t => { t with given := names :: t.given }
    ensure p (modify fun t =>
      restoreLocals { t with locals := old :: t.locals, given := s.given })

/-- Whether words such as `a=b` behind a command are settings, too. -/
def takesSettings (s : State) (name : Text) : Bool :=
  let names := ["export", "readonly", "local"] ++ if s.bash then ["declare", "typeset"] else []
  names.any fun n => n.toList = name

/-- A word behind such a command: a setting is one field. -/
def settingField (e : Expander) (w : Word) : Sh (List Text) := do
  match Word.setting? (← get).bash w, w.getLast? with
  | some (.scalar name append _), some (.list ws) =>
    let t := name ++ if append then ['+', '='] else ['=']
    modify fun s => { s with lists := (t, ws) :: s.lists }
    return [t]
  | some (.scalar name append v), _ =>
    let t ← assignedText e v
    return [name ++ (if append then ['+', '='] else ['=']) ++ t]
  | _, _ => allFields e [w]

/-- The fields of words, of which the first tells how the others are read. -/
def commandFields (e : Expander) : Bool → List Word → Sh (List Text)
  | _, [] => return []
  | assigning, w :: ws => do
    let a ← if assigning then settingField e w else allFields e [w]
    let s ← get
    let name := (a.find? fun t => t ≠ "command".toList && t ≠ "builtin".toList)
    let assigning := assigning || name.any (takesSettings s)
    if a = [] || name.isNone then return a ++ (← commandFields e assigning ws)
    else return a ++ (← restFields e assigning ws)
where
  restFields (e : Expander) (assigning : Bool) : List Word → Sh (List Text)
    | [] => return []
    | w :: ws => do
      let a ← if assigning then settingField e w else allFields e [w]
      return a ++ (← restFields e assigning ws)

/-- A command behind the word `command`, with whether functions and the meaning of special
builtins are left out, and the path where programs are looked for. -/
structure Invoked where
  words : List Text
  direct : Bool := false
  path : Option Text := none

def defaultPath : Text := "/usr/local/sbin:/usr/local/bin:/usr/sbin:/usr/bin:/sbin:/bin".toList

def invokedFrom : Nat → Invoked → Invoked
  | 0, i => i
  | n + 1, i =>
    match i.words with
    | c :: rest =>
      if c ≠ "command".toList then i
      else
        match rest with
        | ['-', 'p'] :: name :: more =>
          invokedFrom n { words := name :: more, direct := true, path := some defaultPath }
        | ['-', '-'] :: name :: more => invokedFrom n { i with words := name :: more, direct := true }
        | ('-' :: _ :: _) :: _ => i
        | name :: more => invokedFrom n { i with words := name :: more, direct := true }
        | [] => i
    | [] => i

/-- Asks what names stand for, or does nothing. -/
def commandBuiltin : Builtin := fun _ _ args => do
  let (os, names) ← options "pvV" args
  if hasOption 'V' os then tellNames true names
  else if hasOption 'v' os && (names ≠ [] || !(← get).bash) then tellNames false names
  else setStatus 0

/-- What bash says of a program that cannot take its place. -/
def execTrouble (p : Text) : Sh Unit := do
  let t : FileTree ← Sh.call .look
  match Machine.executable t (Raw.toText p) with
  | .ok _ | .error .noFormat => return
  | .error e =>
    let s ← get
    let full := if p.head? = some '/' then p else logicalPath s.dir p
    let absent := e = .files .noEntry || e = .files .notDirectory
    let isDir := (Pattern.nodeAt? t true p).any Node.isDir
    let why : Text := if isDir then "Is a directory".toList else e.text
    modify fun s => { s with builtin := none }
    complain (full ++ ": ".toList ++ why)
    modify fun s => { s with builtin := some "exec".toList }
    if !absent then complain (full ++ ": cannot execute: ".toList ++ why)
    setStatus (if absent then 127 else 126)
    throw .exited

/-- Replaces the shell by a program. -/
def execProgram (r : Runner) (path : Option Text) (args : List Text) : Sh Unit := do
  let bash := (← get).bash
  let args ← if bash then do
      let (_, rest) ← options "cla:" args
      pure rest
    else pure args
  match args with
  | [] => setStatus 0
  | name :: rest =>
    match ← locateProgram path name with
    | none =>
      let s ← get
      complain (name ++ ": not found".toList)
      setStatus 127
      modify fun _ => { s with status := 127 }
      throw .exited
    | some p =>
      let s ← get
      if bash then execTrouble p
      for (n, text) in s.traps do
        if n ≠ 0 && n < trapDebug && text ≠ [] then Sh.call (.handle n .usual)
      lowerLevel
      becomeProgram r p name rest

/-- Runs a builtin that is asked for as one. -/
def invokeBuiltin (r : Runner) (f : Flags) (args : List Text) : Sh Unit := do
  modify fun s => { s with builtin := some "builtin".toList }
  let (_, args) ← options "" args
  match args with
  | [] => setStatus 0
  | name :: rest =>
    let s ← get
    match if name = "command".toList then some commandBuiltin else builtinOf s name with
    | some b => runBuiltin r f (name = "eval".toList || name = ".".toList) b name rest
    | none => refuse 1 (name ++ ": not a shell builtin".toList)

/-- Runs words as a command, whose redirections are done. -/
def invoke (r : Runner) (f : Flags) (vs : List Setting) (i : Invoked) : Sh Unit := do
  let s ← get
  let e := expander r
  match i.words with
  | [] => setStatus s.outputStatus
  | name :: args =>
    let special := isSpecialBuiltin s name && !i.direct
    let function := if special || i.direct then none else s.functions.lookup name
    match function with
    | some body => withSettings e vs do
      trace r vs i.words
      runFunction r f name args body
    | none =>
      if name = "exec".toList then
        applySettings e vs
        trace r vs i.words
        exportSettings (vs.map Setting.name)
        let args := if args.head? = some "--".toList then args.drop 1 else args
        let before := s.builtin
        modify fun s => { s with builtin := some name }
        tryCatch (execProgram r i.path args) fun e =>
          if e = .failed && s.bash then pure () else throw e
        modify fun s => { s with builtin := before }
      else if s.bash && name = "builtin".toList then
        withSettings e vs do
          trace r vs i.words
          let before := s.builtin
          tryCatch (invokeBuiltin r f args) fun e =>
            if e = .failed then pure () else throw e
          modify fun s => { s with builtin := before }
      else
        let b? := if name = "command".toList then some commandBuiltin else builtinOf s name
        match b? with
        | some b =>
          if special then
            applySettings e vs
            trace r vs i.words
            runBuiltin r f true b name args
          else
            withSettings e vs do
              trace r vs i.words
              runBuiltin r f (s.bash && (name = "eval".toList || name = ".".toList)) b name args
        | none =>
          withSettings e vs do
            trace r vs i.words
            match ← locateProgram i.path name with
            | none => notFound name
            | some p => inChild r f (becomeProgram r p name args)

/-- Does what is to be done after a failure that counts, and ends the shell if it is set so. -/
def checkFailure (r : Runner) (f : Flags) : Sh Unit := do
  let s ← get
  if s.status ≠ 0 && !f.tested then
    if s.bash && (s.calls = [] || s.hasSetting "errtrace" || s.trapOwner = s.calls.length) then
      runTrap r trapFailure
    if s.options.failing then throw .exited

def setPipeStatus : Sh Unit := modify fun s => { s with pipeStatus := [s.status] }

/-- Runs a simple command: words, redirections, settings, and then what the words say. -/
def runSimple (r : Runner) (f : Flags) (line : Nat) (vs : List Setting) (ws : List Word)
    (ds : List Redirect) : Sh Unit := do
  let e := expander r
  Sh.call (.pass stepTime)
  let start ← get
  modify fun s => { s with line := line, outputStatus := 0 }
  if start.bash && (start.calls = [] || start.hasSetting "functrace") then runTrap r trapDebug
  let words ← commandFields e false ws
  let i := invokedFrom words.length { words := words }
  let s ← get
  let os ← prepare e ds
  let isExec := i.words = ["exec".toList]
  match ← tryOpen os with
  | none =>
    setStatus (if s.bash then 1 else 2)
    if (i.words.head?.any (isSpecialBuiltin s)) && !i.direct then throw .failed
  | some aside =>
    let restore := if isExec then forgetAside aside else putBack aside
    let run : Sh Unit :=
      if words = [] then do
        applySettings e vs
        if !vs.isEmpty then trace r vs []
        if s.copying then put 1 (← readAll 0)
        let s ← get
        setStatus s.outputStatus
      else invoke r f vs i
    ensure run restore
  if start.bash then
    modify fun s => { s with lastWord := words.getLast?.getD [], copying := false }
    dropChannels start.channels
  setPipeStatus
  runTraps r
  checkFailure r f

/-! ### several processes -/

/-- Starts the processes of a pipe, each of which reads from the one before it. -/
def startPipe (r : Runner) (first : Sh Unit) : Option Nat → List Command → Sh (List Nat)
  | _, [] => return []
  | input, c :: cs => do
    let out : Option (Nat × Nat) ← if cs.isEmpty then pure none else do pure (some (← makePipe))
    let id ← startChild r do
      first
      match input with
      | some a =>
        let _ ← Sh.call (.copy a 0)
        Sh.call (.close a)
      | none => pure ()
      match out with
      | some (a, b) =>
        Sh.call (.close a)
        let _ ← Sh.call (.copy b 1)
        Sh.call (.close b)
      | none => pure ()
      r.command { last := true, inner := true } c
    if let some a := input then Sh.call (.close a)
    if let some (_, b) := out then Sh.call (.close b)
    let ids ← startPipe r (pure ()) (out.map (·.1)) cs
    return id :: ids

def awaitAll : List Nat → Sh (List Nat)
  | [] => return []
  | id :: ids => do
    let n ← await id
    return n :: (← awaitAll ids)

/-- The status of a pipe: that of its last process, or of the last that failed. -/
def pipeStatusOf (o : Options) (ns : List Nat) : Nat :=
  if o.pipeFail then ((ns.filter (· ≠ 0)).getLast?).getD 0 else ns.getLast?.getD 0

def runPipe (r : Runner) (f : Flags) (cs : List Command) : Sh Unit := do
  let ids ← startPipe r (pure ()) none cs
  let ns ← awaitAll ids
  modify fun s => { s with status := pipeStatusOf s.options ns, pipeStatus := ns }
  runTraps r
  checkFailure r f

/-- What a process in the background does first. -/
def detach : Sh Unit := do
  Sh.call (.handle 2 .ignored)
  Sh.call (.handle 3 .ignored)
  let _ ← Sh.call (.openAs 0 "/dev/null".toList .read)

def runBackground (r : Runner) (c : Command) : Sh Unit := do
  Sh.call (.pass stepTime)
  let ids ←
    match c with
    | .pipe _ cs => startPipe r detach none cs
    | .subshell _ body ds => do
      pure [← startChild r do
        detach
        let os ← prepare (expander r) ds
        let _ ← openAll [] os
        r.command { last := true } body]
    | _ => do
      pure [← startChild r do
        detach
        r.command { last := true } c]
  let id := ids.getLast?.getD 0
  modify fun s => { s with background := some id, jobs := s.jobs ++ [{ id := id }], status := 0 }

/-! ### loops -/

/-- Runs one turn of a loop; the answer says whether the loop goes on. -/
def turnOf (p : Sh Unit) : Sh Bool :=
  tryCatch (do
    p
    return true) fun
    | .again 0 | .again 1 => return true
    | .leave 0 | .leave 1 => return false
    | .again (n + 1) => throw (.again n)
    | .leave (n + 1) => throw (.leave n)
    | e => throw e

/-- Runs a loop, which counts as one more around its body. -/
def inLoop (p : Sh Unit) : Sh Unit := do
  let n := (← get).loops
  modify fun s => { s with loops := n + 1 }
  ensure p (modify fun s => { s with loops := n })

def runLoop (r : Runner) (f : Flags) (whileTrue : Bool) (test body : Command) : Sh Unit :=
  inLoop do
    let last ← Proc.iterate (fun (status : Nat) => do
      Sh.call (.pass 1)
      let done : Bool ← tryCatch (do
          r.command { tested := true } test
          return ((← get).status = 0) ≠ whileTrue) fun
        | .leave 0 | .leave 1 => return true
        | .again 0 | .again 1 => return false
        | .again (n + 1) => throw (.again n)
        | .leave (n + 1) => throw (.leave n)
        | e => throw e
      if done then return .inr status
      let on ← turnOf (do
        if ((← get).status = 0) = whileTrue then r.command { tested := f.tested } body)
      let status := (← get).status
      if on then return .inl status else return .inr status) 0 Proc.ages 0
    setStatus last

/-- Runs a body for each of several texts. -/
def forEach (p : Text → Sh Unit) : List Text → Sh Unit
  | [] => return
  | t :: ts => do
    Sh.call (.pass 1)
    if ← turnOf (p t) then forEach p ts

/-- Refuses a name that no variable can have. -/
def checkLoopName (name : Text) : Sh Bool := do
  if (← get).bash && !isName name then
    refuse 1 ('\x60' :: name ++ "': not a valid identifier".toList)
    return false
  else return true

def runEach (r : Runner) (f : Flags) (line : Nat) (name : Text) (ws : List Word) (body : Command) :
    Sh Unit := do
  modify fun s => { s with line := line }
  let before := (← get).channels
  let ts ← allFields (expander r) ws
  if !(← checkLoopName name) then return
  setStatus 0
  inLoop (forEach (fun t => do
    assign name t
    let s ← get
    if s.bash then traceText r ("for ".toList ++ name ++ " in ".toList ++ spaced (ts.map (tracedWord s)))
    r.command { tested := f.tested } body) ts)
  dropChannels before

/-- Lets the reader choose among texts, again and again. -/
def runMenu (r : Runner) (f : Flags) (line : Nat) (name : Text) (ws : List Word) (body : Command) :
    Sh Unit := do
  modify fun s => { s with line := line }
  let ts ← allFields (expander r) ws
  if !(← checkLoopName name) then return
  setStatus 0
  if ts ≠ [] then
    inLoop do
      let status ← Proc.iterate (fun (shown : Bool) => do
        match ← choose ts shown with
        | none => return .inr 1
        | some t =>
          assign name t
          let on ← turnOf (r.command { tested := f.tested } body)
          let s ← get
          if on then return .inl (s.lookup "REPLY".toList = []) else return .inr s.status) 0 Proc.ages true
      setStatus status

/-- Whether one of several patterns is a text. -/
def anyCovers (e : Expander) (t : Text) : List Word → Sh Bool
  | [] => return false
  | w :: ws => do
    let is ← patternOf e w
    if Pattern.Glob.covers (globStyle (← get)) is t then return true else anyCovers e t ws

def runCases (r : Runner) (f : Flags) (t : Text) : Bool → List (List Word × Command × Char) → Sh Unit
  | _, [] => return
  | fallen, (ps, body, ending) :: rest => do
    if ← (if fallen then pure true else anyCovers (expander r) t ps) then
      match ending with
      | '&' =>
        r.command { f with last := false } body
        runCases r f t true rest
      | '*' =>
        r.command { f with last := false } body
        runCases r f t false rest
      | _ => r.command { f with inner := true } body
    else runCases r f t false rest

/-! ### bash's own commands -/

/-- The value of a sum of its own, which complaints name. -/
def ownSum (r : Runner) (name : String) (w : Word) : Sh (Option Int) := do
  let before := (← get).builtin
  modify fun s => { s with builtin := some name.toList }
  let v : Option Int ← tryCatch (do return some (← wordSum (expander r) w)) fun
    | .failed => return none
    | e => throw e
  modify fun s => { s with builtin := before }
  return v

def traceSum (r : Runner) (w : Word) : Sh Unit := do
  if (← get).options.tracing then
    let t ← rawTextOf (expander r) w
    let trimmed := ((t.dropWhile isBlank).reverse.dropWhile isBlank).reverse
    traceText r ("(( ".toList ++ trimmed ++ " ))".toList)

def runArithmetic (r : Runner) (f : Flags) (line : Nat) (w : Word) : Sh Unit := do
  Sh.call (.pass stepTime)
  modify fun s => { s with line := line }
  traceSum r w
  let v ← ownSum r "((" w
  setStatus (if v.any (· ≠ 0) then 0 else 1)
  setPipeStatus
  checkFailure r f

def runCounted (r : Runner) (f : Flags) (line : Nat) (start test step : Word) (body : Command) :
    Sh Unit := do
  modify fun s => { s with line := line }
  let isEmpty := fun (w : Word) => w.all fun
    | .exact t | .plain t => t.all Arithmetic.isSpace
    | _ => false
  let value := fun (w : Word) => do
    if isEmpty w then return some 1
    traceSum r w
    ownSum r "((" w
  if (← value start).isNone then setStatus 1
  else
    setStatus 0
    inLoop (Proc.repeatWhile (do
      Sh.call (.pass 1)
      match ← value test with
      | none =>
        setStatus 1
        return false
      | some 0 => return false
      | some _ =>
        if ← turnOf (r.command { tested := f.tested } body) then
          let v ← value step
          if v.isNone then setStatus 1
          return v.isSome
        else return false) Proc.ages)

/-- The items of a word that is a pattern, and what it looks like. -/
def testPattern (e : Expander) (w : Word) : Sh (List Pattern.Glob.Item × Text) := do
  let bs ← bitsFrom e false false wordFuel (tildes (← get) false true w)
  let gs := Bit.glyphs bs
  let shown := gs.flatMap fun g => if g.quoted then ['\\', g.char] else [g.char]
  return (Pattern.Glob.items gs true, shown)

def testHolds (r : Runner) (negated : Bool) : Condition → Sh Bool
  | .word w => do
    let t ← textOf (expander r) w
    traceTest r negated ["-n".toList, t]
    return t ≠ []
  | .negation c => return !(← testHolds r (!negated) c)
  | .conjunction a b => do
    if ← testHolds r negated a then testHolds r negated b else return false
  | .disjunction a b => do
    if ← testHolds r negated a then return true else testHolds r negated b
  | .unary op w => do
    let e := expander r
    let t ← textOf e w
    traceTest r negated [op, t]
    let tree : FileTree ← Sh.call .look
    let s ← get
    if op = "-o".toList then return isOn s.options (String.ofList t)
    if op = "-v".toList then
      match splitSubscript t with
      | (n, none) => return (s.lookup? n).isSome
      | _ =>
        match ← contentOf e wordFuel t with
        | .one x => return x.isSome
        | .many ts _ => return !ts.isEmpty
    match Utility.applyUnary { flavour := .bash, tree := tree, isSet := fun _ => false } op t with
    | .ok b => return b
    | .error _ => return false
  | .binary op a b => do
    let e := expander r
    let x ← textOf e a
    if op = "=~".toList then
      let t ← regexText e b
      traceTest r negated [x, op, t]
      matchExpression x t
    else if ["=", "==", "!="].any fun o => o.toList = op then
      let (is, shown) ← testPattern e b
      traceTest r negated [x, op, shown]
      let same := Pattern.Glob.covers { globStyle (← get) with extended := true } is x
      return same ≠ (op.head? = some '!')
    else
      let y ← textOf e b
      traceTest r negated [x, op, y]
      let number := fun (t : Text) => do
        match ← ownSum r "[[" [.exact t] with
        | some n => return n
        | none => throw .failed
      match String.ofList op with
      | "-eq" => return (← number x) = (← number y)
      | "-ne" => return (← number x) ≠ (← number y)
      | "-lt" => return (← number x) < (← number y)
      | "-le" => return (← number x) ≤ (← number y)
      | "-gt" => return (← number x) > (← number y)
      | "-ge" => return (← number x) ≥ (← number y)
      | "<" => return x < y
      | ">" => return y < x
      | _ =>
        let tree : FileTree ← Sh.call .look
        return Utility.filesAre tree op x y

def runCondition (r : Runner) (f : Flags) (line : Nat) (c : Condition) : Sh Unit := do
  Sh.call (.pass stepTime)
  modify fun s => { s with line := line, status := 0 }
  let v : Option Bool ← tryCatch (do return some (← testHolds r false c)) fun
    | .failed => return none
    | e => throw e
  let n := (← get).status
  setStatus (match v with
    | some true => 0
    | some false => 1
    | none => if n = 2 then 2 else 1)
  setPipeStatus
  checkFailure r f

/-- A time in microseconds as minutes and seconds, or as seconds alone. -/
def timeShown (brief : Bool) (time : Nat) : Text :=
  let places := if brief then 2 else 3
  let unit := Nat.pow 10 (6 - places)
  let n := time / unit
  let whole := n / Nat.pow 10 places
  let rest := Raw.ofNat (n % Nat.pow 10 places)
  let zeros := List.replicate (places - rest.length) '0'
  if brief then Raw.ofNat whole ++ '.' :: zeros ++ rest
  else Raw.ofNat (whole / 60) ++ 'm' :: Raw.ofNat (whole % 60) ++ '.' :: zeros ++ rest ++ ['s']

/-- The times of a command by a format: the real one, and those of its own work, which are none. -/
def timesByFormat (time : Nat) : Text → Text
  | '%' :: '%' :: r => '%' :: timesByFormat time r
  | '%' :: c :: r =>
    let t : Text :=
      match c with
      | 'R' => (timeShown false time).dropWhile (· ≠ 'm') |>.drop 1 |>.dropLast
      | 'U' | 'S' => "0.000".toList
      | 'P' => "0.00".toList
      | _ => []
    t ++ timesByFormat time r
  | c :: r => c :: timesByFormat time r
  | [] => []

/-- Runs a command and says how long that took. -/
def runTimed (brief : Bool) (p : Sh Unit) : Sh Unit := do
  let start ← clock
  p
  let time := (← clock) - start
  let row := fun (name : String) (t : Nat) =>
    name.toList ++ (if brief then [' '] else ['\t']) ++ timeShown brief t ++ ['\n']
  let format := (← get).lookup? "TIMEFORMAT".toList
  match if brief then none else format with
  | some [] => return
  | some format => put 2 (timesByFormat time format ++ ['\n'])
  | none =>
    put 2 ((if brief then [] else ['\n']) ++ row "real" time ++ row "user" 0 ++ row "sys" 0)

/-- Starts commands beside the shell, which an array names the streams of. -/
def runCoprocess (r : Runner) (name : Text) (body : Command) : Sh Unit := do
  let (inA, inB) ← makePipe
  let (outA, outB) ← makePipe
  let id ← startChild r do
    let _ ← Sh.call (.copy inA 0)
    let _ ← Sh.call (.copy outB 1)
    for n in [inA, inB, outA, outB] do
      Sh.call (.close n)
    r.command { last := true } body
  Sh.call (.close inA)
  Sh.call (.close outB)
  let reading ← freeBelow 63
  let _ ← Sh.call (.copy outA reading)
  Sh.call (.close outA)
  let writing ← freeBelow 60
  let _ ← Sh.call (.copy inB writing)
  Sh.call (.close inB)
  setValue name (.items [(0, Raw.ofNat reading), (1, Raw.ofNat writing)])
  assign (name ++ "_PID".toList) (Raw.ofNat id)
  modify fun s => { s with background := some id, jobs := s.jobs ++ [{ id := id }], status := 0 }

/-! ### all commands -/

/-- Runs with redirections; if one fails, nothing is run. -/
def redirected (r : Runner) (line : Nat) (ds : List Redirect) (p : Sh Unit) : Sh Unit := do
  if line ≠ 0 then modify fun s => { s with line := line }
  let before := (← get).channels
  let os ← prepare (expander r) ds
  match ← tryOpen os with
  | none => setStatus (if (← get).bash then 1 else 2)
  | some aside => ensure p (putBack aside)
  dropChannels before

def runSubshell (r : Runner) (f : Flags) (line : Nat) (body : Command) (ds : List Redirect) :
    Sh Unit := do
  modify fun s => { s with line := line }
  let inner : Sh Unit := do
    let os ← prepare (expander r) ds
    let _ ← openAll [] os
    r.command { f with last := true, inner := false } body
  if f.last && (← get).traps.all fun t => t.2 = [] then
    modify fun s => { s with inside := s.inside + 1 }
    inner
  else
    let id ← startChild r inner
    setStatus (← await id)
  setPipeStatus
  runTraps r
  checkFailure r f

def defineFunction (name : Text) (c : Command) : Sh Unit := do
  let s ← get
  if s.bash && name.any fun d => "'\"$\x60\\".toList.contains d then
    refuse 1 ('\x60' :: name ++ "': not a valid identifier".toList)
    throw .exited
  let origin := s.scripts.headD (if s.options.stdin then "main".toList else "environment".toList)
  set { s with
    functions := State.setEntry name c s.functions, status := 0
    origins := if s.bash then State.setEntry name origin s.origins else s.origins }

def runCommand (r : Runner) (f : Flags) (c : Command) : Sh Unit := do
  match c with
  | .simple line vs ws ds => runSimple r f line vs ws ds
  | .sequence cs => if cs.isEmpty then setStatus 0 else runAll r f cs
  | .both a b =>
    r.command { tested := true } a
    if (← get).status = 0 then r.command f b
  | .either a b =>
    r.command { tested := true } a
    if (← get).status ≠ 0 then r.command f b
  | .negated c =>
    r.command { tested := true } c
    setStatus (if (← get).status = 0 then 1 else 0)
  | .pipe _ cs => runPipe r f cs
  | .background c => runBackground r c
  | .subshell line body ds => runSubshell r f line body ds
  | .redirected line body ds => redirected r line ds (r.command { f with last := false } body)
  | .choice test yes no =>
    r.command { tested := true } test
    let f := { f with inner := true }
    if (← get).status = 0 then r.command f yes
    else
      match no with
      | .sequence [] => setStatus 0
      | _ => r.command f no
  | .loop whileTrue test body => runLoop r f whileTrue test body
  | .each line name ws body => runEach r f line name ws body
  | .branch line w cases => do
    modify fun s => { s with line := line }
    let t ← textOf (expander r) w
    let s ← get
    if s.bash then traceText r ("case ".toList ++ tracedWord s t ++ " in".toList)
    setStatus 0
    runCases r f t false cases
  | .define _ name _ => defineFunction name c
  | .arithmetic line w => runArithmetic r f line w
  | .counted line a b c body => runCounted r f line a b c body
  | .condition line c => runCondition r f line c
  | .timed brief c => runTimed brief (r.command { f with last := false } c)
  | .menu line name ws body => runMenu r f line name ws body
  | .coprocess _ name body => runCoprocess r name body
  | .faulty line first message row => do
    sayFault ((← get).name ++ ": command substitution: ".toList) ⟨line, message, first⟩ row

/-- What runs commands that are nested so deep. -/
def runner (program : Executable → List Text → List (Text × Text) → Work) : Nat → Runner
  | 0 => ⟨fun _ _ => Proc.halt (.killed signalFault), program⟩
  | n + 1 => ⟨fun f c s => runCommand (runner program n) f c s, program⟩

end TestWeaver.Shell
