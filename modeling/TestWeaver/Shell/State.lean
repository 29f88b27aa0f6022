import TestWeaver.Shell.Arithmetic
import TestWeaver.Shell.Grammar

/-!
The state of a shell, and what a shell does with it.

A shell is a process whose state holds its variables, functions and settings. It is left early
by an exit, by a fault, or by a jump out of a loop or a function.
-/

namespace TestWeaver.Shell

open Machine (Call Ending Proc Refusal Work)

inductive Value where
  | text (s : Text)
  | items (xs : List (Int × Text))
  | table (xs : List (Text × Text))
deriving DecidableEq, Repr

structure Variable where
  value : Option Value := none
  exported : Bool := false
  fixed : Bool := false
  whole : Bool := false
  /-- Whether the value is the name of the variable that is meant. -/
  link : Bool := false
  /-- Whether letters become great, or small. -/
  letters : Option Bool := none
deriving DecidableEq, Repr, Inhabited

structure Options where
  failing : Bool := false
  tracing : Bool := false
  defined : Bool := false
  noFiles : Bool := false
  keeping : Bool := false
  exporting : Bool := false
  echoing : Bool := false
  reading : Bool := false
  pipeFail : Bool := false
  command : Bool := false
  /-- The settings that are on besides these. -/
  more : List String := []
  stdin : Bool := false
deriving DecidableEq, Repr

/-- A process in the background, and how it has ended. -/
structure Job where
  id : Nat
  ending : Option Ending := none

structure State where
  bash : Bool := false
  /-- What the shell is called, and calls itself where it complains. -/
  name : Text
  params : List Text := []
  vars : List (Text × Variable) := []
  functions : List (Text × Command) := []
  aliases : List (Text × Text) := []
  /-- What is done on a signal, or at the end, which counts as signal 0. -/
  traps : List (Nat × Text) := []
  /-- How deep in functions the trap for failures was set. -/
  trapOwner : Nat := 0
  options : Options := {}
  status : Nat := 0
  pipeStatus : List Nat := [0]
  jobs : List Job := []
  /-- The process that was started last in the background. -/
  background : Option Nat := none
  id : Nat := 0
  line : Nat := 1
  /-- The line on which the function that is run begins. -/
  functionLine : Nat := 0
  /-- The builtin that is run, which complaints name. -/
  builtin : Option Text := none
  loops : Nat := 0
  /-- The functions that are run, the innermost first. -/
  calls : List Text := []
  /-- The lines on which they were called. -/
  callLines : List Nat := []
  sourced : Nat := 0
  /-- Where the commands that are run come from, the innermost source first. -/
  scripts : List Text := []
  /-- Where functions come from. -/
  origins : List (Text × Text) := []
  /-- What variables were before functions made them their own. -/
  locals : List (List (Text × Option Variable)) := []
  /-- The names that stand in front of the commands that are run. -/
  given : List (List Text) := []
  /-- Streams that are kept aside while others stand in for them. -/
  kept : List Nat := []
  bodies : List (Nat × Word) := []
  nextBody : Nat := 0
  /-- How many shells this one is inside of. -/
  inside : Nat := 0
  /-- How many texts are read inside one another. -/
  indirection : Nat := 0
  dir : Text := []
  /-- Where in a word the next option is looked for. -/
  optionOffset : Nat := 0
  random : Nat := 1
  /-- Where commands were found that were run by their names. -/
  hashed : List (Text × Text) := []
  /-- How often these were run. -/
  hits : List (Text × Nat) := []
  umask : Nat := 18
  /-- The status of the last commands whose output stood in a word. -/
  outputStatus : Nat := 0
  /-- Whether something could not be written to the output. -/
  unwritten : Bool := false
  /-- The last word of the command before. -/
  lastWord : Text := []
  /-- Arrays that are written down behind a command that declares. -/
  lists : List (Text × List Word) := []
  /-- The directories to go back to. -/
  dirStack : List Text := []
  /-- Streams that stand in for names in words, until the command is done. -/
  channels : List Nat := []
  /-- Whether the commands only say which file their output comes from. -/
  copying : Bool := false
  /-- When the shell was started, in microseconds. -/
  startTime : Nat := 0

/-- How commands are left early. -/
inductive Stop where
  | leave (loops : Nat)
  | again (loops : Nat)
  | returned
  | exited
  | failed
deriving DecidableEq, Repr

abbrev Sh := Proc State Stop

def Sh.call (c : Call) : Sh c.Answer := Proc.call c

/-! ### parts of the state -/

namespace State

def ifs : Text := "IFS".toList

/-- The variable of a name itself. -/
def ownVar? (s : State) (name : Text) : Option Variable := s.vars.lookup name

/-- The name that is meant where names may stand for others. -/
def meant (s : State) : Nat → Text → Text
  | 0, name => name
  | n + 1, name =>
    match s.ownVar? name with
    | some { link := true, value := some (.text t), .. } => if t = [] then name else meant s n t
    | _ => name

/-- How often a name may stand for another one. -/
def hops : Nat := 8

def target (s : State) (name : Text) : Text := if s.bash then s.meant hops name else name

def var? (s : State) (name : Text) : Option Variable := s.ownVar? (s.target name)

def hasSetting (s : State) (name : String) : Bool := s.options.more.contains name

def setEntry {α : Type} (name : Text) (a : α) : List (Text × α) → List (Text × α)
  | [] => [(name, a)]
  | (n, b) :: r => if n = name then (n, a) :: r else (n, b) :: setEntry name a r

def putOwn (s : State) (name : Text) (v : Variable) : State :=
  { s with vars := setEntry name v s.vars }

def putVariable (s : State) (name : Text) (v : Variable) : State := s.putOwn (s.target name) v

def Value.first : Value → Option Text
  | .text t => some t
  | .items xs => xs.lookup 0
  | .table xs => xs.lookup ['0']

/-- The text of a variable. -/
def lookup? (s : State) (name : Text) : Option Text :=
  (s.var? name).bind fun v => v.value.bind Value.first

def lookup (s : State) (name : Text) : Text := (s.lookup? name).getD []

/-- The characters that separate fields. -/
def separators (s : State) : Text := (s.lookup? ifs).getD [' ', '\t', '\n']

def isCalled (s : State) : Bool := !s.calls.isEmpty

/-- The line that complaints and the script see. -/
def shownLine (s : State) : Nat :=
  if s.bash || s.functionLine = 0 then s.line else s.line - (s.functionLine - 1)

/-- The beginning of a complaint. -/
def sign (s : State) : Text :=
  let line := Raw.ofNat s.shownLine
  let builtin := (s.builtin.map (· ++ ": ".toList)).getD []
  let front := if s.bash then s.scripts.headD s.name ++ ": line ".toList else s.name ++ ": ".toList
  front ++ line ++ ": ".toList ++ builtin

/-- The value of an item of an array; a negative number counts from the end. -/
def item? (xs : List (Int × Text)) (i : Int) : Option Text :=
  let last := xs.foldl (fun m x => max m x.1) (-1)
  xs.lookup (if i < 0 then last + 1 + i else i)

/-- Items by their numbers in order. -/
def putItem (i : Int) (t : Text) : List (Int × Text) → List (Int × Text)
  | [] => [(i, t)]
  | (j, u) :: r =>
    if i = j then (i, t) :: r else if i < j then (i, t) :: (j, u) :: r else (j, u) :: putItem i t r

end State

/-! ### what a shell says -/

/-- Writes to a stream; what goes wrong is not minded. -/
def put (stream : Nat) (t : Text) : Sh Unit := do
  if t ≠ [] then
    let _ ← Sh.call (.write stream t)

def complain (message : Text) : Sh Unit := do
  put 2 ((← get).sign ++ message ++ ['\n'])

def setStatus (n : Nat) : Sh Unit := modify fun s => { s with status := n }

/-- Complains and gives up. -/
def fail {α : Type} (message : Text) (status : Nat := 2) : Sh α := do
  complain message
  setStatus (if (← get).bash && status = 2 then 1 else status)
  throw .failed

/-- Complains and goes on with a status. -/
def refuse (status : Nat) (message : Text) : Sh Unit := do
  complain message
  setStatus status

/-! ### variables -/

/-- Refuses to change a fixed variable. -/
def checkFixed (name : Text) : Sh Unit := do
  if ((← get).var? name).any (·.fixed) then
    fail (name ++ (if (← get).bash then ": readonly variable" else ": is read only").toList)

/-- A value whose letters are all great, or all small. -/
def recased (letters : Option Bool) : Value → Value :=
  match letters with
  | none => fun v => v
  | some up =>
    let f := fun (t : Text) => t.map fun c => if up then c.toUpper else c.toLower
    fun
      | .text t => .text (f t)
      | .items xs => .items (xs.map fun x => (x.1, f x.2))
      | .table xs => .table (xs.map fun x => (x.1, f x.2))

def setValue (name : Text) (v : Value) : Sh Unit := do
  checkFixed name
  modify fun s =>
    let old := (s.var? name).getD {}
    s.putVariable name { old with
      value := some (recased old.letters v), exported := old.exported || s.options.exporting }

/-- Sets the text of a variable; of an array, its first item. -/
def assign (name t : Text) : Sh Unit := do
  match ((← get).var? name).bind (·.value) with
  | some (.items xs) => setValue name (.items (State.putItem 0 t xs))
  | some (.table xs) => setValue name (.table (State.setEntry ['0'] t xs))
  | _ => setValue name (.text t)
  if name = "OPTIND".toList then modify fun s => { s with optionOffset := 0 }

def assignItem (name : Text) (i : Int) (t : Text) : Sh Unit := do
  let old : List (Int × Text) :=
    match ((← get).var? name).bind (·.value) with
    | some (.items xs) => xs
    | some (.text u) => [(0, u)]
    | _ => []
  let last := old.foldl (fun m x => max m x.1) (-1)
  setValue name (.items (State.putItem (if i < 0 then last + 1 + i else i) t old))

def unset (name : Text) : Sh Unit := do
  checkFixed name
  modify fun s => { s with vars := s.vars.filter fun v => v.1 ≠ s.target name }

/-- Keeps the value of a variable until the function is done. -/
def makeLocal (name : Text) : Sh Unit := do
  modify fun s =>
    match s.locals with
    | [] => s
    | l :: ls =>
      if l.any fun v => v.1 = name then s
      else { s with locals := (((name, s.ownVar? name)) :: l) :: ls }

/-- Gives variables back the values that they had before a function. -/
def restoreLocals (s : State) : State :=
  match s.locals with
  | [] => s
  | l :: ls =>
    l.foldl (fun s (name, old) =>
      match old with
      | some v => s.putOwn name v
      | none => { s with vars := s.vars.filter fun v => v.1 ≠ name }) { s with locals := ls }

/-! ### parameters -/

/-- What a parameter stands for: one text, or several. -/
inductive Content where
  | one (t : Option Text)
  | many (ts : List Text) (joined : Bool)

/-- A name with its subscript, if it has one. -/
def splitSubscript (name : Text) : Text × Option Text :=
  match Text.cut? ['['] name with
  | some (n, i) => (n, some i.dropLast)
  | none => (name, none)

def optionLetters (o : Options) : Text :=
  let on := fun (b : Bool) (c : Char) => if b then [c] else []
  let more := fun (name : String) => on (o.more.contains name)
  more "privileged" 'p' ++ on o.defined 'u' ++ more "notify" 'b' ++ on o.exporting 'a' ++ on o.keeping 'C' ++
    more "emacs" 'E' ++ more "vi" 'V' ++ on o.echoing 'v' ++ on o.tracing 'x' ++ on o.stdin 's' ++
    more "monitor" 'm' ++ more "interactive" 'i' ++ more "ignoreeof" 'I' ++ on o.noFiles 'f' ++
    on o.failing 'e'

def bashLetters (o : Options) : Text :=
  let on := fun (b : Bool) (c : Char) => if b then [c] else []
  let more := fun (name : String) => on (o.more.contains name)
  on o.exporting 'a' ++ more "notify" 'b' ++ on o.failing 'e' ++ on o.noFiles 'f' ++ more "hashall" 'h' ++
    more "keyword" 'k' ++ more "monitor" 'm' ++ more "privileged" 'p' ++ more "onecmd" 't' ++
    on o.defined 'u' ++ on o.echoing 'v' ++ on o.tracing 'x' ++ more "braceexpand" 'B' ++
    on o.keeping 'C' ++ more "errtrace" 'E' ++ more "histexpand" 'H' ++ more "physical" 'P' ++
    more "functrace" 'T' ++ on o.command 'c' ++ on o.stdin 's'

def bashVersion : Text := "5.2.15(1)-release".toList

/-- The parts of the version. -/
def bashVersionParts : List Text :=
  ["5", "2", "15", "1", "release", "x86_64-pc-linux-gnu"].map String.toList

/-- The value of a parameter with one of the special names. -/
def special? (s : State) (name : Text) : Option Content :=
  match name with
  | ['@'] => some (.many s.params false)
  | ['*'] => some (.many s.params true)
  | ['#'] => some (.one (some (Raw.ofNat s.params.length)))
  | ['?'] => some (.one (some (Raw.ofNat s.status)))
  | ['$'] => some (.one (some (Raw.ofNat s.id)))
  | ['!'] => some (.one (s.background.map Raw.ofNat))
  | ['-'] => some (.one (some (if s.bash then bashLetters s.options else optionLetters s.options)))
  | ['0'] => some (.one (some s.name))
  | c :: _ =>
    if c.isDigit then some (.one (s.params[Arithmetic.valueIn 10 name - 1]?)) else none
  | [] => some (.one none)

def bashSpecial? (s : State) (name : Text) : Option Content :=
  match String.ofList name with
  | "PIPESTATUS" => some (.many (s.pipeStatus.map Raw.ofNat) false)
  | "FUNCNAME" =>
    let isFile := !s.options.command && !s.options.stdin
    some (.many (s.calls ++ if s.calls ≠ [] && isFile then ["main".toList] else []) false)
  | "UID" | "EUID" => some (.one (some ['0']))
  | "GROUPS" => some (.many [['0']] false)
  | "BASH" => some (.one (some "/usr/bin/bash".toList))
  | "BASH_VERSION" => some (.one (some bashVersion))
  | "BASH_VERSINFO" => some (.many bashVersionParts false)
  | "BASH_SUBSHELL" => some (.one (some (Raw.ofNat s.inside)))
  | "BASH_SOURCE" => some (.many s.scripts false)
  | "DIRSTACK" => some (.many (s.dir :: s.dirStack) false)
  | "_" => some (.one (some s.lastWord))
  | "RANDOM" => some (.one (some (Raw.ofNat (s.random * 16807 % 2147483647 % 32768))))
  | "BASHPID" => some (.one (some (Raw.ofNat s.id)))
  | _ => none

def content (s : State) (name : Text) : Content :=
  match special? s name with
  | some c => c
  | none =>
    if name = "LINENO".toList then .one (some (Raw.ofNat s.shownLine))
    else
      match if s.bash then bashSpecial? s name else none with
      | some (.many ts j) =>
        if (s.var? name).isSome then .one (s.lookup? name) else .many ts j
      | some c => if (s.var? name).isSome then .one (s.lookup? name) else c
      | none => .one (s.lookup? name)

/-- The items of an array; a plain variable has one. -/
def itemsOf (s : State) (name : Text) : List Text :=
  match (s.var? name).bind (·.value) with
  | some (.items xs) => xs.map (·.2)
  | some (.table xs) => xs.map (·.2)
  | some (.text t) => [t]
  | none =>
    match if s.bash then bashSpecial? s name else none with
    | some (.many ts _) => ts
    | some (.one (some t)) => [t]
    | _ => []

def keysOf (s : State) (name : Text) : List Text :=
  match (s.var? name).bind (·.value) with
  | some (.items xs) => xs.map fun x => Raw.ofInt x.1
  | some (.table xs) => xs.map (·.1)
  | some (.text _) => [['0']]
  | none => []

end TestWeaver.Shell
