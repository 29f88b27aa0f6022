import TestWeaver.Machine.Signal
import TestWeaver.Utility.Condition

/-!
Programs and what they have in common.

A program is given a name that it goes by, arguments and variables. What it prints is kept in a
buffer, and written when the buffer is full or the program ends; complaints are written at once.
-/

namespace TestWeaver.Utility

open Machine (Call Ending Proc Refusal Work Mode)

structure Start where
  self : Text
  args : List Text
  env : List (Text × Text)

/-- The state of a program: the status that it will end with, and what it has not written yet,
the last piece first. -/
structure Running where
  self : Text
  env : List (Text × Text)
  status : Nat := 0
  buffer : List Text := []
  size : Nat := 0

/-- A program is left early with a status. -/
abbrev Act := Proc Running Nat

abbrev Program := List Text → Act Unit

def call (c : Call) : Act c.Answer := Proc.call c

/-! ### output -/

def bufferSize : Nat := 4096

def setStatus (n : Nat) : Act Unit := modify fun s => { s with status := n }

def exit {α : Type} (n : Nat) : Act α := throw n

def putRaw (stream : Nat) (t : Text) : Act (Except Refusal Unit) :=
  if t = [] then return .ok () else call (.write stream t)

/-- Writes what is in the buffer. -/
def flush : Act Unit := do
  let s ← get
  if s.buffer ≠ [] then
    set { s with buffer := [], size := 0 }
    match ← putRaw 1 s.buffer.reverse.flatten with
    | .ok _ => return
    | .error e =>
      let _ ← putRaw 2 (s.self ++ ": write error: ".toList ++ e.text ++ ['\n'])
      exit 1

def emit (t : Text) : Act Unit := do
  if t ≠ [] then
    modify fun s => { s with buffer := t :: s.buffer, size := s.size + t.length }
    if bufferSize ≤ (← get).size then flush

def emitLine (t : Text) : Act Unit := emit (t ++ ['\n'])

/-- Writes a line to the errors behind the name of the program. -/
def complain (m : Text) : Act Unit := do
  let _ ← putRaw 2 ((← get).self ++ ": ".toList ++ m ++ ['\n'])

/-- Complains and goes on; the program will fail. -/
def grumble (m : Text) (status : Nat := 1) : Act Unit := do
  complain m
  setStatus status

/-- Complains and ends. -/
def die {α : Type} (m : Text) (status : Nat := 1) : Act α := do
  complain m
  flush
  exit status

def tryHelp : Act Unit := do
  let _ ← putRaw 2 ("Try '".toList ++ (← get).self ++ " --help' for more information.\n".toList)

/-- Complains about how the program was called, and ends. -/
def misuse {α : Type} (m : Text) (status : Nat := 1) : Act α := do
  complain m
  tryHelp
  exit status

/-- The work of a program from its start to its end. -/
def Program.work (p : Program) (s : Start) : Work :=
  let final : Act Unit := do
    p s.args
    flush
  final { self := s.self, env := s.env } (fun _ r => .ended (.exited r.status)) fun n r =>
    (flush : Act Unit) r (fun _ _ => .ended (.exited n)) fun n _ => .ended (.exited n)

/-! ### quotes -/

/-- Whether a complaint shows a name in quotes even where it could do without. -/
def isDelicate (c : Char) : Bool := " \t\n!\"$&()*;<=>[^\x60|'\\?:".toList.contains c

/-- A name in quotes as a complaint shows it. -/
def inQuotes (name : Text) : Text :=
  if name.any isControl then
    let one := fun (c : Char) =>
      match shortEscapes.find? fun e => e.2 = c && e.1 ≠ 'e' with
      | some (l, _) => "'$'\\".toList ++ [l] ++ "''".toList
      | none => if isControl c then "'$'\\".toList ++ octalOf c ++ "''".toList else
        if c = '\'' then "'\\''".toList else [c]
    let t := '\'' :: name.flatMap one ++ ['\'']
    t
  else if name.contains '\'' && !name.any (fun c => "\"$\x60\\".toList.contains c) then
    '"' :: name ++ ['"']
  else '\'' :: name.flatMap (fun c => if c = '\'' then "'\\''".toList else [c]) ++ ['\'']
where
  octalOf (c : Char) : Text :=
    let ds := Nat.toDigits 8 c.toNat
    List.replicate (3 - ds.length) '0' ++ ds

/-- A name, in quotes only if it needs them. -/
def shown (name : Text) : Text :=
  if name = [] || name.any isDelicate || name.any isControl || name.head? = some '#' ||
      name.head? = some '~' then inQuotes name
  else name

/-! ### options -/

/-- An option: its letter, its long name, and whether it takes a text: always or perhaps. -/
structure Known where
  letter : Char
  name : String := ""
  takes : Bool := false
  perhaps : Bool := false

structure Given where
  letter : Char
  text : Text := []
deriving DecidableEq, Repr

abbrev Parsed := List Given × List Text

/-- Reads options wherever they stand. `first` says that they end at the first other argument.
The fault is what is said about it. -/
def parseFrom (known : List Known) (first : Bool) : Nat → List Text → Except Text Parsed
  | 0, args => .ok ([], args)
  | n + 1, args => do
    match args with
    | [] => return ([], [])
    | ['-', '-'] :: rest => return ([], rest)
    | ('-' :: '-' :: name) :: rest =>
      let (name, value) : Text × Option Text :=
        match Text.cut? ['='] name with
        | some (a, b) => (a, some b)
        | none => (name, none)
      let full := "'--".toList ++ name ++ ['\'']
      let hits := known.filter fun k => k.name ≠ "" && Text.startsWith k.name.toList name
      let exact := hits.find? fun k => k.name.toList = name
      match exact.or (match hits with
        | [k] => some k
        | _ => none) with
      | none =>
        if hits.isEmpty then throw ("unrecognized option ".toList ++ full)
        else
          throw ("option ".toList ++ full ++ " is ambiguous; possibilities:".toList ++
            hits.flatMap fun k => " '--".toList ++ k.name.toList ++ ['\''])
      | some k =>
        let full := "'--".toList ++ k.name.toList ++ ['\'']
        if k.takes && !k.perhaps then
          match value, rest with
          | some v, _ =>
            let (os, ops) ← parseFrom known first n rest
            return (⟨k.letter, v⟩ :: os, ops)
          | none, v :: rest =>
            let (os, ops) ← parseFrom known first n rest
            return (⟨k.letter, v⟩ :: os, ops)
          | none, [] => throw ("option ".toList ++ full ++ " requires an argument".toList)
        else if value.isSome && !k.perhaps then
          throw ("option ".toList ++ full ++ " doesn't allow an argument".toList)
        else
          let (os, ops) ← parseFrom known first n rest
          return (⟨k.letter, value.getD []⟩ :: os, ops)
    | ('-' :: c :: cs) :: rest =>
      match known.find? fun k => k.letter = c with
      | none => throw ("invalid option -- '".toList ++ [c, '\''])
      | some k =>
        if k.perhaps then
          let (os, ops) ← parseFrom known first n rest
          return (⟨c, cs⟩ :: os, ops)
        else if k.takes then
          if cs ≠ [] then
            let (os, ops) ← parseFrom known first n rest
            return (⟨c, cs⟩ :: os, ops)
          else
            match rest with
            | v :: rest =>
              let (os, ops) ← parseFrom known first n rest
              return (⟨c, v⟩ :: os, ops)
            | [] => throw ("option requires an argument -- '".toList ++ [c, '\''])
        else
          let next := if cs = [] then rest else ('-' :: cs) :: rest
          let (os, ops) ← parseFrom known first n next
          return (⟨c, []⟩ :: os, ops)
    | a :: rest =>
      if first then return ([], args)
      else
        let (os, ops) ← parseFrom known first n rest
        return (os, a :: ops)

def parse (known : List Known) (args : List Text) (first : Bool := false) (status : Nat := 1) :
    Act Parsed := do
  match parseFrom known first (args.foldl (fun n a => n + a.length + 1) 1) args with
  | .ok p => return p
  | .error m => misuse m status

def has (os : List Given) (c : Char) : Bool := os.any (·.letter = c)

/-- The text of an option that was given last. -/
def valueOf (os : List Given) (c : Char) : Option Text :=
  (os.reverse.find? (·.letter = c)).map (·.text)

/-! ### files -/

/-- The stream that a program reads files through. -/
def fileStream : Nat := 200

def readChunk (stream : Nat) : Act (Except Refusal Text) := call (.read stream 65536)

/-- How long a program waits that waits for ever. -/
def century : Nat := 3155760000000000

/-- How much a program takes in as a whole before it gets nowhere. -/
def memory : Nat := 8000000

/-- Reads a stream to its end. -/
def readStream (stream : Nat) : Act (Except Refusal Text) := do
  let r : Except Refusal (List Text) ← Proc.iterate (fun ((acc, size) : List Text × Nat) => do
    match ← readChunk stream with
    | .ok [] => return .inr (.ok acc)
    | .ok t =>
      if memory < size then call (.sleep century)
      return .inl (t :: acc, size + t.length)
    | .error e => return .inr (.error e)) (.ok []) Proc.ages ([], 0)
  return r.map fun (acc : List Text) => acc.reverse.flatten

/-- What was read of a stream but not used yet. -/
structure Pending where
  stream : Nat
  rest : Text := []
  isOver : Bool := false

/-- The next part of a stream up to a mark and with it. -/
def nextPart (mark : Char) (p : Pending) : Act (Except Refusal (Option Text × Pending)) := do
  let cut := fun (p : Pending) =>
    let a := p.rest.takeWhile (· ≠ mark)
    match p.rest.drop a.length with
    | m :: r => some (a ++ [m], { p with rest := r })
    | [] => none
  Proc.iterate (fun (p : Pending) => do
    match cut p with
    | some (t, p) => return .inr (.ok (some t, p))
    | none =>
      if p.isOver then
        return .inr (.ok (if p.rest = [] then none else some p.rest, { p with rest := [] }))
      else
        match ← (call (.read p.stream 32768) : Act (Except Refusal Text)) with
        | .ok [] => return .inl { p with isOver := true }
        | .ok t => return .inl { p with rest := p.rest ++ t }
        | .error e => return .inr (.error e)) (.ok (none, p)) Proc.ages p

/-- Reads a file; a dash means the input. -/
def readFile (name : Text) : Act (Except Refusal Text) := do
  if name = ['-'] then readStream 0
  else
    match ← (call (.openAs fileStream name .read) : Act (Except Refusal Unit)) with
    | .error e => return .error e
    | .ok _ =>
      let t ← readStream fileStream
      call (.close fileStream)
      return t

def writeFile (name : Text) (mode : Mode) (t : Text) : Act (Except Refusal Unit) := do
  match ← (call (.openAs fileStream name mode) : Act (Except Refusal Unit)) with
  | .error e => return .error e
  | .ok _ =>
    let r ← putRaw fileStream t
    call (.close fileStream)
    return r

def look : Act FileTree := call .look

def troubleText : FileTree.Trouble → Text
  | .refused c _ => c.text
  | _ => "No such file or directory".toList

/-- Changes the files; the answer says why not. -/
def change (f : FileTree → FileTree.Outcome FileTree) : Act (Option Text) := do
  match ← (call (.change f) : Act (FileTree.Outcome Unit)) with
  | .ok _ => return none
  | .error e => return some (troubleText e)

/-- The files that are named, or the input. -/
def inputs (names : List Text) : List Text := if names = [] then [['-']] else names

/-- The rows of a text, each with the line break behind it if it has one. -/
def rowsOf (t : Text) : List Text :=
  match t with
  | [] => []
  | _ =>
    let rows := Text.rows t
    match rows.getLast? with
    | some [] => rows.dropLast.map (· ++ ['\n'])
    | some r => rows.dropLast.map (· ++ ['\n']) ++ [r]
    | none => []

/-- The rows of a text without line breaks. -/
def plainRows (t : Text) : List Text :=
  let rows := Text.rows t
  if rows.getLast? = some [] then rows.dropLast else rows

/-- The words of a text between blanks. -/
def wordsOf (t : Text) : List Text := (t.splitBy fun a b =>
  Decimal.Real.isBlank a = Decimal.Real.isBlank b).filter fun w => !(w.head?.any Decimal.Real.isBlank)

def isDigits (t : Text) : Bool := t ≠ [] && t.all Char.isDigit

def number (t : Text) : Nat := Decimal.Real.natIn 10 t

end TestWeaver.Utility
