import TestWeaver.Shell.Output

/-!
Reading rows into variables.
-/

namespace TestWeaver.Shell

open Machine (Proc Refusal)
open Pattern (Glyph)

/-- A row that is being read. -/
structure Row where
  /-- The last glyph first. -/
  glyphs : List Glyph := []
  escaped : Bool := false
  complete : Bool := false

/-- Adds octets up to the one that ends a row; a backslash hides what follows it. -/
def Row.add (raw : Bool) (mark : Char) (r : Row) : Text → Row
  | [] => r
  | c :: s =>
    if r.complete then r
    else if r.escaped then
      if c = '\n' then Row.add raw mark { r with escaped := false } s
      else Row.add raw mark { r with escaped := false, glyphs := ⟨c, true⟩ :: r.glyphs } s
    else if c = '\\' && !raw then Row.add raw mark { r with escaped := true } s
    else if c = mark then { r with complete := true }
    else if c = Char.ofNat 0 then Row.add raw mark r s
    else Row.add raw mark { r with glyphs := ⟨c, false⟩ :: r.glyphs } s

/-- Reads a row; at most so many octets if a number is given. -/
def readRow (raw : Bool) (mark : Char) (stream : Nat) (most : Option Nat) : Sh Row :=
  Proc.iterate (fun r => do
    let enough := most.any fun n => n ≤ r.glyphs.length
    if enough then return .inr { r with complete := true }
    let t : Except Refusal Text ←
      match most with
      | some _ => Sh.call (.read stream 1)
      | none => Sh.call (.readTo stream mark)
    match t with
    | .ok [] | .error _ => return .inr r
    | .ok t =>
      let r := r.add raw mark t
      if r.complete then return .inr r else return .inl r) {} Proc.ages {}

/-! ### words of a row -/

def isMark (ifs : Text) (g : Glyph) : Bool := !g.quoted && ifs.contains g.char

def isBlankMark (ifs : Text) (g : Glyph) : Bool :=
  isMark ifs g && (g.char = ' ' || g.char = '\t' || g.char = '\n')

/-- Where the last word ends, behind which only one mark and blanks may stand. -/
structure LastWord where
  index : Nat := 0
  seen : Bool := false
  stop : Option Nat := none
  blank : Bool := false

def LastWord.step (ifs : Text) (l : LastWord) (g : Glyph) : LastWord :=
  let l' := { l with index := l.index + 1 }
  if !l.seen then
    if isMark ifs g then { l' with seen := true, stop := some l.index, blank := isBlankMark ifs g }
    else l'
  else if isBlankMark ifs g then { l' with stop := l.stop.or (some l.index) }
  else if isMark ifs g && l.blank then { l' with blank := false }
  else { l' with stop := none, blank := false }

def lastWord (ifs : Text) (gs : List Glyph) : List Glyph :=
  match (gs.foldl (LastWord.step ifs) {}).stop with
  | some n => gs.take n
  | none => gs

/-- What follows the mark that ends a word. -/
def behindMark (ifs : Text) : List Glyph → List Glyph
  | [] => []
  | g :: gs =>
    let rest := gs.dropWhile (isBlankMark ifs)
    if isBlankMark ifs g then
      match rest with
      | h :: hs => if isMark ifs h then hs.dropWhile (isBlankMark ifs) else rest
      | [] => []
    else rest

/-- At most so many words of a row; the last one takes the rest. -/
def wordsOf (ifs : Text) : Nat → List Glyph → List Text
  | 0, _ => []
  | n + 1, gs =>
    let gs := gs.dropWhile (isBlankMark ifs)
    let text := fun (gs : List Glyph) => gs.map (·.char)
    if gs = [] then []
    else if n = 0 then [text (lastWord ifs gs)]
    else
      let w := gs.takeWhile fun g => !isMark ifs g
      match gs.drop w.length with
      | [] => [text w]
      | rest => text w :: wordsOf ifs n (behindMark ifs rest)

/-- All words of a row. -/
def allWords (ifs : Text) (gs : List Glyph) : List Text :=
  (fields ifs (gs.map fun g => .glyph g.char g.quoted (!g.quoted))).map fun f => f.map (·.char)

/-- Gives words to variables; the ones that are left over become empty. -/
def assignWords : List Text → List Text → Sh Unit
  | [], _ => return
  | n :: ns, ws => do
    if !isName (splitSubscript n).1 then badName n
    assignTo .idle wordFuel n (ws.headD [])
    assignWords ns (ws.drop 1)

/-- Whether a stream can be read from, which bash asks beforehand. -/
def checkStream (stream : Nat) : Sh Unit := do
  let there : Bool ← Sh.call (.isOpen stream)
  if !there then
    refused 1 (Raw.ofNat stream ++ ": invalid file descriptor: Bad file descriptor".toList)

/-- Refuses texts that should be numbers. -/
def checkNumbers (os : List (Char × Text)) : Sh Unit := do
  for (c, t) in os do
    let isNumber := t ≠ [] && t.all fun d => d.isDigit || (c = 't' && d = '.')
    if (c = 'n' || c = 'N') && !isNumber then refused 1 (t ++ ": invalid number".toList)
    if c = 't' && !isNumber then refused 1 (t ++ ": invalid timeout specification".toList)
    if c = 'u' && !isNumber then
      refused 1 (t ++ ": invalid file descriptor specification".toList)

def readVariables : Builtin := fun _ _ args => do
  let s ← get
  let (os, names) ← options (if s.bash then "rsep:t:n:N:d:a:u:i:" else "p:r") args
  let find := fun (c : Char) => (os.find? (·.1 = c)).map (·.2)
  let number := fun (c : Char) => (find c).map (Arithmetic.valueIn 10)
  if !s.bash && names = [] then fail "arg count".toList
  if s.bash then
    checkNumbers os
    if let some n := names.find? fun n => !isName (splitSubscript n).1 then
      refused 1 ('\x60' :: n ++ "': not a valid identifier".toList)
    if let some n := number 'u' then checkStream n
    if find 't' = some ['0'] then
      setStatus 0
      return
  let raw := hasOption 'r' os
  let mark :=
    match find 'd' with
    | some t => t.headD (Char.ofNat 0)
    | none => '\n'
  let stream := (number 'u').getD 0
  let whole := find 'N'
  let mark := if whole.isSome then Char.ofNat 256 else mark
  let row ← readRow raw mark stream ((number 'n').or (number 'N'))
  let gs := row.glyphs.reverse
  let ifs := (← get).separators
  match find 'a' with
  | some a => setValue a (.items ((allWords ifs gs).zipIdx.map fun (t, i) => ((i : Int), t)))
  | none =>
    if names = [] then assign "REPLY".toList (gs.map (·.char))
    else if whole.isSome then assignWords names [gs.map (·.char)]
    else assignWords names (wordsOf ifs names.length gs)
  setStatus (if row.complete then 0 else 1)

/-- The pieces of a text, each with the mark that ends it. -/
def piecesOf (mark : Char) (t : Text) : List Text :=
  let ps := Text.splitAt mark t
  match ps.getLast? with
  | some [] => ps.dropLast.map (· ++ [mark])
  | some p => ps.dropLast.map (· ++ [mark]) ++ [p]
  | none => []

/-- Reads all rows into an array. -/
def mapFile : Builtin := fun r f args => do
  let (os, names) ← options "td:n:s:u:O:C:c:" args
  let find := fun (c : Char) => (os.find? (·.1 = c)).map (·.2)
  let number := fun (c : Char) => (find c).map (Arithmetic.valueIn 10)
  let name := names.headD "MAPFILE".toList
  if !isName name then refused 1 ('\x60' :: name ++ "': not a valid identifier".toList)
  let stream := (number 'u').getD 0
  checkStream stream
  let mark := match find 'd' with
    | some t => t.headD (Char.ofNat 0)
    | none => '\n'
  let rows := (piecesOf mark (← readAll stream)).drop ((number 's').getD 0)
  let rows := match number 'n' with
    | some 0 | none => rows
    | some n => rows.take n
  let cut := fun (t : Text) =>
    if hasOption 't' os && t.getLast? = some mark then t.dropLast else t
  let first := (number 'O').getD 0
  let s ← get
  let before : List (Int × Text) :=
    match (s.var? name).bind (·.value) with
    | some (.items xs) => if (find 'O').isSome then xs else []
    | _ => []
  setValue name (.items before)
  let every := max ((number 'c').getD 5000) 1
  let mut i := first
  let mut items := before
  for t in rows do
    if let some command := find 'C' then
      if (i - first + 1) % every = 0 then
        setValue name (.items items)
        runText r { f with last := false } (command ++ ' ' :: Raw.ofNat i ++ ' ' :: bashQuoted (cut t))
    items := State.putItem i (cut t) items
    i := i + 1
  setValue name (.items items)
  setStatus 0

end TestWeaver.Shell
