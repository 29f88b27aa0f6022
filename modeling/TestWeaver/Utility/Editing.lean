import TestWeaver.Utility.EditScript

/-!
Editing a stream of lines by a script.
-/

namespace TestWeaver.Utility.Edit

open Machine (Refusal)

/-- How far a range of lines has come. -/
inductive Range where
  | idle
  | active
  | upTo (n : Nat)
deriving DecidableEq, Repr

/-- What is written at the end of a cycle. -/
inductive Later where
  | text (t : Text)
  | file (name : Text)
  | line (name : Text)

/-- How a script is run. -/
structure Flags where
  quiet : Bool
  separate : Bool
  inPlace : Option Text
  mark : Char
  width : Nat

structure Editor where
  script : Script
  flags : Flags
  names : List Text
  /-- The file that is read, and its name. -/
  pending : Option Pending := none
  name : Text := ['-']
  /-- The next line, which was read to see whether there is one. -/
  ahead : Option Text := none
  line : Nat := 0
  space : Text := []
  hasBreak : Bool := true
  held : Text := []
  replaced : Bool := false
  ranges : Array Range
  later : List Later := []
  lastRegex : Option Matcher := none
  /-- Whether the last line that was written has no line break yet. -/
  owesBreak : Bool := false
  /-- What is to be written into the file that is edited in place, the last piece first. -/
  inPlace : Option (List Text) := none
  /-- The lines of files that are read one by one. -/
  lineFiles : List (Text × List Text) := []
  written : List (Text × Nat) := []

abbrev Ed := StateT Editor Act

def act {α : Type} (p : Act α) : Ed α := StateT.lift p

/-! ### output -/

def put (t : Text) : Ed Unit := do
  match (← get).inPlace with
  | some ts => modify fun e => { e with inPlace := some (t :: ts) }
  | none => act (emit t)

/-- Ends the last line if it has no line break. -/
def settle : Ed Unit := do
  if (← get).owesBreak then
    put ['\n']
    modify fun e => { e with owesBreak := false }

def putText (t : Text) : Ed Unit := do
  settle
  put t

def putLine (t : Text) (hasBreak : Bool) : Ed Unit := do
  settle
  put t
  if hasBreak then put [(← get).flags.mark]
  else modify fun e => { e with owesBreak := true }

def putSpace : Ed Unit := do
  let e ← get
  putLine e.space e.hasBreak

/-- Writes to a file that the script names. -/
def putFile (name t : Text) : Ed Unit := do
  if name = "/dev/stdout".toList then act (emit t)
  else if name = "/dev/stderr".toList then
    let _ ← act (putRaw 2 t)
  else
    match (← get).written.lookup name with
    | some stream =>
      let _ ← act (putRaw stream t)
    | none => return

/-! ### input -/

/-- Ends the file that is edited in place. -/
def closeFile : Ed Unit := do
  let e ← get
  match e.inPlace, e.flags.inPlace with
  | some ts, some suffix =>
    let t := ts.reverse.flatten
    if suffix ≠ [] then
      let copy := if suffix.contains '*' then
          suffix.flatMap fun c => if c = '*' then lastName e.name else [c]
        else lastName e.name ++ suffix
      let dir := dirName e.name
      let path := if copy.contains '/' || !e.name.contains '/' then copy else dir ++ '/' :: copy
      if let .ok old ← act (readFile e.name) then
        let _ ← act (writeFile path .write old)
    let _ ← act (writeFile e.name .write t)
    set { e with inPlace := none, owesBreak := false }
  | _, _ => return

/-- Opens the next file that can be read. -/
def openNext : Ed Bool := do
  let rec go : List Text → Ed Bool
    | [] => do
      modify fun e => { e with names := [], pending := none }
      return false
    | n :: ns => do
      let e ← get
      if n = ['-'] && e.flags.inPlace.isNone then
        set { e with names := ns, pending := some { stream := 0 }, name := n }
        return true
      else
        let t ← act look
        let isDir := (Pattern.nodeAt? t true n).any FileTree.Node.isDir
        if isDir && e.flags.inPlace.isSome then
          act (flush)
          act (grumble ("couldn't edit ".toList ++ n ++ ": not a regular file".toList) 4)
          go ns
        else if isDir then
          act (flush)
          act (die ("read error on ".toList ++ n ++ ": Is a directory".toList) 4)
        else
          match ← act (call (.openAs fileStream n .read) : Act (Except Refusal Unit)) with
          | .error r =>
            act flush
            act (grumble ("can't read ".toList ++ n ++ ": ".toList ++ r.text) 2)
            go ns
          | .ok _ =>
            set { e with
              names := ns, pending := some { stream := fileStream }, name := n
              inPlace := e.flags.inPlace.map fun _ => []
              line := if e.flags.separate then 0 else e.line
              ranges := if e.flags.separate then e.ranges.map fun _ => .idle else e.ranges }
            return true
  go (← get).names

/-- The next line of the file that is read; nothing at its end. -/
def readHere : Ed (Option Text) := do
  match (← get).pending with
  | none => return none
  | some p =>
    match ← act (nextPart (← get).flags.mark p) with
    | .error r =>
      act (grumble ("read error on ".toList ++ (← get).name ++ ": ".toList ++ r.text) 2)
      return none
    | .ok (t, p) =>
      modify fun e => { e with pending := some p }
      return t

def closeHere : Ed Unit := do
  if ((← get).pending.map (·.stream)) = some fileStream then
    act (call (.close fileStream))
  closeFile
  modify fun e => { e with pending := none }

/-- Looks for a line in the files that follow, if they count as one stream with this one. -/
def fillAhead : Nat → Bool → Ed Unit
  | 0, _ => return
  | n + 1, across => do
    let e ← get
    if e.ahead.isSome then return
    match e.pending with
    | some _ =>
      match ← readHere with
      | some t => modify fun e => { e with ahead := some t }
      | none =>
        if across then
          closeHere
          fillAhead n across
    | none =>
      if e.names = [] then return
      else if ← openNext then fillAhead n across

def manyFiles : Nat := 100000

/-- Whether the line in hand is the last one. -/
def isLast : Ed Bool := do
  fillAhead manyFiles (!(← get).flags.separate)
  return (← get).ahead.isNone

/-- Reads the next line into the pattern space, behind what is kept of it. -/
def readLine (kept : Option Text) : Ed Bool := do
  fillAhead manyFiles true
  let e ← get
  match e.ahead with
  | none => return false
  | some part =>
    let hasBreak := part.getLast? = some e.flags.mark
    let t := if hasBreak then part.dropLast else part
    set { e with
      ahead := none, line := e.line + 1, hasBreak := hasBreak
      space := match kept with
        | some k => k ++ e.flags.mark :: t
        | none => t }
    return true

/-! ### addresses -/

def matchesSpace (m : Option Matcher) : Ed Bool := do
  let e ← get
  let m := m.or e.lastRegex
  match m with
  | none => act (die "-e expression #1, char 0: no previous regular expression".toList)
  | some m =>
    modify fun e => { e with lastRegex := some m }
    return (m.regex.search m.mode e.space).isSome

def fits (a : Address) : Ed Bool := do
  let n := (← get).line
  match a with
  | .line k => return n = k
  | .step first every => return first ≤ n && (n - first) % every = 0
  | .last => isLast
  | .regex m => matchesSpace m

def setRange (i : Nat) (r : Range) : Ed Unit :=
  modify fun e => { e with ranges := e.ranges.set! i r }

/-- Whether a command is for the line in hand. -/
def isChosen (i : Nat) (c : Command) : Ed Bool := do
  match c.first, c.last with
  | none, _ => return true
  | some a, none => fits a
  | some a, some u =>
    let e ← get
    let n := e.line
    match e.ranges.getD i .idle with
    | .upTo k =>
      if k ≤ n then setRange i .idle
      if n ≤ k then return true
      else fits a
    | .active =>
      match u with
      | .address b =>
        match b with
        | .line k =>
          if k ≤ n then setRange i .idle
          return n ≤ k
        | b =>
          if ← fits b then setRange i .idle
          return true
      | _ => return true
    | .idle =>
      let zero := match a with
        | .line 0 => decide (n = 1)
        | _ => false
      if zero then
        match u with
        | .address b => if !(← fits b) then setRange i .active
        | _ => pure ()
        return true
      else if ← fits a then
        match u with
        | .address (.line k) => if n < k then setRange i (.upTo k)
        | .address _ => setRange i .active
        | .more k => if k ≠ 0 then setRange i (.upTo (n + k))
        | .multiple k => if k ≠ 0 && n % k ≠ 0 then setRange i (.upTo (n + (k - n % k)))
        return true
      else return false

/-! ### substitution -/

/-- How letters are being changed: for good, and for the next one only. -/
structure Cases where
  all : CaseChange := .none
  next : CaseChange := .none

def applyCase (k : Cases) (t : Text) : Text × Cases :=
  let body := match k.all with
    | .upper => t.map Char.toUpper
    | .lower => t.map Char.toLower
    | _ => t
  match k.next, body with
  | .none, _ | _, [] => (body, k)
  | .upperNext, c :: r => (c.toUpper :: r, { k with next := .none })
  | _, c :: r => (c.toLower :: r, { k with next := .none })

def replacement (parts : List Part) (s : Array Char) (m : Pattern.Regex.Match) : Text :=
  (parts.foldl (fun ((out, k) : List Text × Cases) p =>
    match p with
    | .text t =>
      let (t, k) := applyCase k t
      (t :: out, k)
    | .group n =>
      let (t, k) := applyCase k ((m.group? s n).getD [])
      (t :: out, k)
    | .case c =>
      (out, match c with
        | .upperNext | .lowerNext => { k with next := c }
        | .none => {}
        | c => { k with all := c })) ([], {})).1.reverse.flatten

/-- Replaces matches from a place on; `count` were passed, and the last one ended at `past`. -/
def replaceFrom (s : Substitution) (m : Matcher) (a : Array Char) :
    Nat → Nat → Nat → Option Nat → List Text → Bool → Text × Bool
  | 0, start, _, _, out, did => ((out.reverse.flatten) ++ Pattern.Regex.part a start a.size, did)
  | n + 1, start, count, past, out, did =>
    let rest := fun (out : List Text) (did : Bool) =>
      (out.reverse.flatten ++ Pattern.Regex.part a start a.size, did)
    if a.size < start then rest out did
    else
      match m.regex.searchFrom m.mode a start with
      | none => rest out did
      | some x =>
        let out := Pattern.Regex.part a start x.first :: out
        let isEmpty := x.first = x.last
        let step := fun (out : List Text) (count : Nat) (did : Bool) =>
          if isEmpty then
            if x.last < a.size then
              let j := Pattern.Regex.after a x.last
              replaceFrom s m a n j count (some x.last) (Pattern.Regex.part a x.last j :: out) did
            else (out.reverse.flatten, did)
          else replaceFrom s m a n x.last count (some x.last) out did
        if isEmpty && past = some x.first then step out count did
        else
          let count := count + 1
          if count < s.number then step (Pattern.Regex.part a x.first x.last :: out) count did
          else
            let out := replacement s.parts a x :: out
            if s.all then step out count true
            else (out.reverse.flatten ++ Pattern.Regex.part a x.last a.size, true)

def substitute (s : Substitution) : Ed Unit := do
  let e ← get
  match s.regex.or e.lastRegex with
  | none => act (die "-e expression #1, char 0: no previous regular expression".toList)
  | some m =>
    let a := e.space.toArray
    let (t, did) := replaceFrom s m a (a.size + 2) 0 0 none [] false
    set { e with lastRegex := some m }
    if did then
      modify fun e => { e with space := t, replaced := true }
      if s.print then putSpace
      if let some f := s.file then
        putFile f ((← get).space ++ [(← get).flags.mark])

def padLeftZeros (width : Nat) (t : Text) : Text := List.replicate (width - t.length) '0' ++ t

/-- A line as it can be seen, in rows of a width. -/
def shownLine (width : Nat) (t : Text) : Text :=
  let one := fun (c : Char) =>
    match c with
    | '\\' => ['\\', '\\']
    | '\x07' => ['\\', 'a']
    | '\x08' => ['\\', 'b']
    | '\x0c' => ['\\', 'f']
    | '\n' => ['\\', 'n']
    | '\r' => ['\\', 'r']
    | '\t' => ['\\', 't']
    | '\x0b' => ['\\', 'v']
    | c =>
      if 32 ≤ c.toNat && c.toNat < 127 then [c]
      else '\\' :: padLeftZeros 3 (Nat.toDigits 8 c.toNat)
  let (out, _) := t.foldl (fun ((out, column) : List Text × Nat) c =>
    let u := one c
    if 1 < width && width - 1 < column + u.length then (u :: "\\\n".toList :: out, u.length)
    else (u :: out, column + u.length)) ([], 0)
  out.reverse.flatten ++ ['$', '\n']

/-! ### running -/

/-- What follows a command. -/
inductive Flow where
  | goOn (index : Nat)
  | cycleEnd (print : Bool)
  | restart
  | quit (status : Nat) (print : Bool)

def translate (pairs : List (Text × Text)) : Nat → Text → Text
  | 0, t => t
  | n + 1, t =>
    match t with
    | [] => []
    | c :: r =>
      match pairs.find? fun p => Text.startsWith t p.1 with
      | some (a, b) => b ++ translate pairs n (t.drop a.length)
      | none => c :: translate pairs n r

def runPlain (i : Nat) (letter : Char) : Ed Flow := do
  let e ← get
  let on := Flow.goOn (i + 1)
  match letter with
  | '=' =>
    putText (Raw.ofNat e.line ++ ['\n'])
    return on
  | 'd' => return .cycleEnd false
  | 'D' =>
    if e.space.contains e.flags.mark then
      set { e with space := (e.space.dropWhile (· ≠ e.flags.mark)).drop 1 }
      return .restart
    else return .cycleEnd false
  | 'F' =>
    putText (e.name ++ ['\n'])
    return on
  | 'g' =>
    set { e with space := e.held }
    return on
  | 'G' =>
    set { e with space := e.space ++ e.flags.mark :: e.held }
    return on
  | 'h' =>
    set { e with held := e.space }
    return on
  | 'H' =>
    set { e with held := e.held ++ e.flags.mark :: e.space }
    return on
  | 'n' =>
    if ← isLast then return .quit 0 true
    else
      if !e.flags.quiet then putSpace
      if ← readLine none then return on else return .quit 0 false
  | 'N' =>
    if ← isLast then return .quit 0 true
    else
      let kept := (← get).space
      if ← readLine (some kept) then return on else return .quit 0 true
  | 'p' =>
    putSpace
    return on
  | 'P' =>
    putLine (e.space.takeWhile (· ≠ e.flags.mark)) true
    return on
  | 'z' =>
    set { e with space := [] }
    return on
  | _ =>
    set { e with space := e.held, held := e.space }
    return on

/-- The next line of a file that is read line by line. -/
def queueLine (name : Text) : Ed Unit := do
  let e ← get
  let rows ← match e.lineFiles.lookup name with
    | some rows => pure rows
    | none =>
      match ← act (readFile name) with
      | .ok t => pure (plainRows t)
      | .error _ => pure []
  let rest := rows.drop 1
  set { e with lineFiles := (name, rest) :: e.lineFiles.filter fun f => f.1 ≠ name }
  if let r :: _ := rows then
    modify fun e => { e with later := e.later ++ [Later.text (r ++ ['\n'])] }

def runAction (i : Nat) (c : Command) : Ed Flow := do
  let on := Flow.goOn (i + 1)
  let e ← get
  match c.action with
  | .block _ | .closing | .label => return on
  | .text letter t =>
    match letter with
    | 'i' =>
      putText t
      return on
    | 'a' =>
      set { e with later := e.later ++ [Later.text t] }
      return on
    | _ =>
      let isInside := c.last.isSome && !c.negated && e.ranges.getD i .idle ≠ .idle
      if !isInside then putText t
      return .cycleEnd false
  | .jump letter label =>
    let goes := match letter with
      | 'b' => true
      | 't' => e.replaced
      | _ => !e.replaced
    if letter ≠ 'b' then set { e with replaced := false }
    if goes then
      match e.script.labels.lookup label with
      | some j => return .goOn (j + 1)
      | none => return .goOn e.script.commands.size
    else return on
  | .number letter n =>
    match letter with
    | 'q' => return .quit (n.getD 0) true
    | 'Q' => return .quit (n.getD 0) false
    | _ =>
      let width := n.getD e.flags.width
      putText (shownLine width e.space)
      return on
  | .plain letter => runPlain i letter
  | .file letter name =>
    match letter with
    | 'r' => set { e with later := e.later ++ [Later.file name] }
    | 'R' => queueLine name
    | 'w' => putFile name (e.space ++ [e.flags.mark])
    | _ => putFile name (e.space.takeWhile (· ≠ e.flags.mark) ++ [e.flags.mark])
    return on
  | .substitute s =>
    substitute s
    return on
  | .map pairs =>
    set { e with space := translate pairs (e.space.length + 1) e.space }
    return on

/-- Runs commands from one on until the cycle is over. -/
def runFrom : Nat → Nat → Ed Flow
  | 0, _ => return .quit 1 false
  | n + 1, i => do
    match (← get).script.commands[i]? with
    | none => return .cycleEnd true
    | some c =>
      if (← isChosen i c) ≠ c.negated then
        match ← runAction i c with
        | .goOn j => runFrom n j
        | f => return f
      else
        match c.action with
        | .block last => runFrom n (last + 1)
        | _ => runFrom n (i + 1)

/-- Writes what was put off to the end of the cycle. -/
def finishCycle (print : Bool) : Ed Unit := do
  if print && !(← get).flags.quiet then putSpace
  for l in (← get).later do
    match l with
    | .text t => putText t
    | .line t => putText t
    | .file name =>
      match ← act (readFile (if name = "/dev/stdin".toList then ['-'] else name)) with
      | .ok t => if t ≠ [] then putText t
      | .error _ => pure ()
  modify fun e => { e with later := [] }

/-- Cycles until the input ends or a command says so. -/
def cycles : Nat → Bool → Ed Nat
  | 0, _ => return 1
  | n + 1, again => do
    if !again && !(← readLine none) then return 0
    modify fun e => { e with replaced := if again then e.replaced else false }
    match ← runFrom Machine.Proc.ages 0 with
    | .cycleEnd print =>
      finishCycle print
      cycles n false
    | .restart =>
      finishCycle false
      cycles n true
    | .quit status print =>
      finishCycle print
      return status
    | .goOn _ => return 0

/-- How wide lines are shown at most. -/
def lineWidth : Nat := 70

def usage : Act Unit := do
  let _ ← putRaw 2 ("Usage: ".toList ++ (← get).self ++
    " [OPTION]... \x7bscript-only-if-no-other-script\x7d [input-file]...\n\n".toList)
  exit 1

def outputFiles (s : Script) : List Text :=
  (s.commands.toList.filterMap fun c =>
    match c.action with
    | .file 'w' n | .file 'W' n => some n
    | .substitute u => u.file
    | _ => none).eraseDups.filter fun n => n ≠ "/dev/stdout".toList && n ≠ "/dev/stderr".toList

/-- Reads a script from the options in the order in which they were given. -/
def scriptOf (extended : Bool) (os : List Given) : Act Script := do
  let rec go : Nat → Script → Nat → List Given → Act Script
    | 0, s, _, _ => return s
    | _ + 1, s, _, [] => return s
    | n + 1, s, k, o :: r => do
      if o.letter = 'e' then
        let run := (o :: r).takeWhile (·.letter = 'e')
        match Script.ofParts extended s none k (run.map (·.text)) with
        | .ok s => go n s (k + run.length) ((o :: r).drop run.length)
        | .error m => die m
      else
        match ← readFile o.text with
        | .error e => die ("couldn't open file ".toList ++ o.text ++ ": ".toList ++ e.text) 4
        | .ok t =>
          let t := if Text.endsWith t ['\n'] then t.dropLast else t
          match Script.ofParts extended s (some o.text) 1 [t] with
          | .ok s => go n s k r
          | .error m => die m
  go (os.length + 1) {} 1 os

def sed : Program := fun args => do
  let known : List Known := [⟨'n', "quiet", false, false⟩, ⟨'n', "silent", false, false⟩,
    ⟨'e', "expression", true, false⟩, ⟨'f', "file", true, false⟩,
    ⟨'E', "regexp-extended", false, false⟩, ⟨'r', "", false, false⟩, ⟨'i', "in-place", true, true⟩,
    ⟨'s', "separate", false, false⟩, ⟨'z', "null-data", false, false⟩,
    ⟨'l', "line-length", true, false⟩, ⟨'u', "unbuffered", false, false⟩,
    ⟨'1', "posix", false, false⟩, ⟨'1', "debug", false, false⟩, ⟨'1', "sandbox", false, false⟩,
    ⟨'1', "follow-symlinks", false, false⟩]
  let (os, names) ← match parseFrom known false (args.foldl (fun n a => n + a.length + 1) 1) args with
    | .ok p => pure p
    | .error m =>
      complain m
      usage
      exit 1
  let extended := has os 'E' || has os 'r'
  let given := os.filter fun o => o.letter = 'e' || o.letter = 'f'
  let (given, names) : List Given × List Text ←
    if given ≠ [] then pure (given, names)
    else
      match names with
      | [] => do
        usage
        exit 1
      | t :: r => pure ([⟨'e', t⟩], r)
  let s ← scriptOf extended given
  if let some (m, status) := s.fault? then die m status
  let inPlace := valueOf os 'i'
  let flags : Flags := {
    quiet := has os 'n' || s.quiet, separate := has os 's' || inPlace.isSome, inPlace := inPlace
    mark := if has os 'z' then Char.ofNat 0 else '\n'
    width := ((valueOf os 'l').map Utility.number).getD lineWidth }
  let files ← (outputFiles s).zipIdx.mapM fun (n, i) => do
    let stream := fileStream + 1 + i
    match ← (call (.openAs stream n .write) : Act (Except Refusal Unit)) with
    | .ok _ => return (n, stream)
    | .error e => die ("couldn't open file ".toList ++ n ++ ": ".toList ++ e.text) 4
  let start : Editor := {
    script := s, flags := flags, names := inputs names
    ranges := Array.replicate s.commands.size .idle, written := files }
  let (status, _) ← (do
    let status ← cycles Machine.Proc.ages false
    let e ← get
    if e.inPlace.isSome then
      if let some t := e.ahead then put t
      if let some p := e.pending then
        if let .ok t ← act (readStream p.stream) then put (p.rest ++ t)
    closeHere
    return status : Ed Nat).run start
  if status ≠ 0 then setStatus status

end TestWeaver.Utility.Edit
