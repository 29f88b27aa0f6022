import TestWeaver.Pattern.Glob
import TestWeaver.Utility.Content

/-!
Searching lines for patterns.
-/

namespace TestWeaver.Utility

open FileTree (Node)
open Machine (Proc Refusal)
open Pattern (Regex)

/-- What lines are searched for. -/
structure Wanted where
  regexes : List Regex
  mode : Pattern.Regex.Mode := {}
  word : Bool := false
  line : Bool := false
  inverted : Bool := false

namespace Wanted

/-- Whether a part of a line stands as a word. -/
def isWord (s : Array Char) (i j : Nat) : Bool :=
  !Pattern.Regex.wordBefore s i && !(s[j]?.any Pattern.Regex.isWordChar)

/-- Where the longest match ends that begins at a place and stands as it must. -/
def endAt (w : Wanted) (s : Array Char) (i : Nat) : Option Nat :=
  let ends := w.regexes.flatMap fun r =>
    if Pattern.Regex.hasBack r then ((r.matchAt w.mode s i).map (·.last)).toList
    else r.ends w.mode s [i]
  let ends := ends.filter fun j =>
    (!w.word || isWord s i j) && (!w.line || (i = 0 && j = s.size))
  ends.foldl (fun best j => some (match best with
    | some b => max b j
    | none => j)) none

/-- The first match from a place on. -/
def find (w : Wanted) (s : Array Char) (i : Nat) : Option (Nat × Nat) :=
  ((List.range (s.size + 1 - i)).map (i + ·)).findSome? fun k => (w.endAt s k).map (k, ·)

def isIn (w : Wanted) (line : Text) : Bool := (w.find line.toArray 0).isSome ≠ w.inverted

/-- All matches that are not empty, one behind the other. -/
def all (w : Wanted) (s : Array Char) : Nat → Nat → List (Nat × Nat)
  | 0, _ => []
  | n + 1, i =>
    match w.find s i with
    | none => []
    | some (a, b) => if a = b then w.all s n (b + 1) else (a, b) :: w.all s n b

end Wanted

/-- A text as an expression that is nothing but the text. -/
def literal (t : Text) : Regex := t.foldr (fun c r => .seq (.char c) r) .empty

def grepOptions : List Known := [⟨'E', "extended-regexp", false, false⟩,
  ⟨'F', "fixed-strings", false, false⟩, ⟨'G', "basic-regexp", false, false⟩,
  ⟨'P', "perl-regexp", false, false⟩, ⟨'e', "regexp", true, false⟩, ⟨'f', "file", true, false⟩,
  ⟨'i', "ignore-case", false, false⟩, ⟨'y', "", false, false⟩, ⟨'v', "invert-match", false, false⟩,
  ⟨'w', "word-regexp", false, false⟩, ⟨'x', "line-regexp", false, false⟩,
  ⟨'c', "count", false, false⟩, ⟨'l', "files-with-matches", false, false⟩,
  ⟨'L', "files-without-match", false, false⟩, ⟨'q', "quiet", false, false⟩,
  ⟨'q', "silent", false, false⟩, ⟨'s', "no-messages", false, false⟩,
  ⟨'n', "line-number", false, false⟩, ⟨'H', "with-filename", false, false⟩,
  ⟨'h', "no-filename", false, false⟩, ⟨'o', "only-matching", false, false⟩,
  ⟨'m', "max-count", true, false⟩, ⟨'A', "after-context", true, false⟩,
  ⟨'B', "before-context", true, false⟩, ⟨'C', "context", true, false⟩,
  ⟨'r', "recursive", false, false⟩, ⟨'R', "dereference-recursive", false, false⟩,
  ⟨'b', "byte-offset", false, false⟩, ⟨'a', "text", false, false⟩, ⟨'I', "", false, false⟩,
  ⟨'z', "null-data", false, false⟩, ⟨'Z', "null", false, false⟩, ⟨'U', "binary", false, false⟩,
  ⟨'T', "initial-tab", false, false⟩, ⟨'1', "include", true, false⟩, ⟨'2', "exclude", true, false⟩,
  ⟨'3', "exclude-dir", true, false⟩, ⟨'4', "color", true, true⟩, ⟨'4', "colour", true, true⟩,
  ⟨'5', "line-buffered", false, false⟩, ⟨'6', "label", true, false⟩,
  ⟨'7', "group-separator", true, false⟩, ⟨'8', "no-group-separator", false, false⟩,
  ⟨'9', "binary-files", true, false⟩, ⟨'d', "directories", true, false⟩, ⟨'0', "no-ignore-case", false, false⟩]

/-- A number alone asks for so many lines around. -/
def contextArgs (args : List Text) : List Text :=
  args.map fun a =>
    match a with
    | '-' :: c :: cs => if (c :: cs).all Char.isDigit then "-C".toList ++ c :: cs else a
    | _ => a

structure GrepFlags where
  wanted : Wanted
  count : Bool
  names : Bool
  namesWithout : Bool
  quiet : Bool
  silent : Bool
  numbers : Bool
  offsets : Bool
  only : Bool
  most : Option Nat
  before : Nat
  after : Nat
  separator : Option Text
  titled : Bool
  asText : Bool
  skipBinary : Bool
  mark : Char
  label : Text
  nameMark : Text

/-- Where a search in a file is. -/
structure GrepState where
  row : Nat := 0
  offset : Nat := 0
  found : Nat := 0
  /-- Lines that were passed by, the last one first, with their numbers and offsets. -/
  passed : List (Nat × Nat × Text) := []
  /-- How many lines are still to be shown behind the last one that was found. -/
  owed : Nat := 0
  /-- The number of the last line that was shown. -/
  shownRow : Option Nat := none
  binary : Bool := false

def isBinaryLine (t : Text) : Bool :=
  t.contains (Char.ofNat 0) || (t.any (fun c => 0x80 ≤ c.toNat) &&
    (Raw.toText t).contains (Char.ofNat 0xFFFD) && !(Text.includes (Raw.ofText [Char.ofNat 0xFFFD]) t))

def fileLabel (f : GrepFlags) (name : Text) : Text :=
  if name = ['-'] then f.label else name

def rowFront (f : GrepFlags) (name : Text) (mark : Char) (row offset : Nat) : Text :=
  (if f.titled then fileLabel f name ++ (if f.nameMark = [] then [mark] else f.nameMark) else []) ++
    (if f.numbers then Raw.ofNat row ++ [mark] else []) ++
    if f.offsets then Raw.ofNat offset ++ [mark] else []

/-- Shows a line, with a line between groups that do not touch. -/
def showRow (f : GrepFlags) (name : Text) (mark : Char) (row offset : Nat) (line : Text)
    (s : GrepState) : Act GrepState := do
  let apart := (f.before ≠ 0 || f.after ≠ 0) && s.shownRow.any (· + 1 < row)
  if apart && (mark = ':' || f.before ≠ 0 || f.after ≠ 0) then
    if let some t := f.separator then emit (t ++ ['\n'])
  if f.only then
    if mark = ':' then
      let a := line.toArray
      for (i, j) in f.wanted.all a (a.size + 1) 0 do
        emit (rowFront f name mark row (offset + i) ++ Pattern.Regex.part a i j ++ [f.mark])
  else emit (rowFront f name mark row offset ++ line ++ [f.mark])
  return { s with shownRow := some row }

/-- Whether lines themselves are shown. -/
def showsRows (f : GrepFlags) : Bool := !(f.count || f.names || f.namesWithout || f.quiet)

def grepRow (f : GrepFlags) (name : Text) (part : Text) (s : GrepState) : Act (GrepState × Bool) := do
  let line := if part.getLast? = some f.mark then part.dropLast else part
  let row := s.row + 1
  let next := { s with row := row, offset := s.offset + part.length }
  let isFull := f.most.any (· ≤ s.found)
  if isFull then
    if s.owed = 0 || !showsRows f then return (s, true)
    else
      if f.wanted.isIn line then return (s, true)
      let t ← showRow f name '-' row s.offset line next
      return ({ t with owed := s.owed - 1 }, false)
  else if f.wanted.isIn line then
    let next := { next with found := s.found + 1 }
    if f.quiet || f.names || f.namesWithout then return (next, true)
    else if f.count then return (next, false)
    else if !f.asText && isBinaryLine line then return ({ next with binary := true }, true)
    else
      let t ← s.passed.reverse.foldlM (fun t (r, o, l) => showRow f name '-' r o l t) next
      let t ← showRow f name ':' row s.offset line t
      return ({ t with passed := [], owed := f.after }, false)
  else if s.owed ≠ 0 && showsRows f then
    let t ← showRow f name '-' row s.offset line next
    return ({ t with owed := s.owed - 1 }, false)
  else
    return ({ next with passed := ((row, s.offset, line) :: s.passed).take f.before }, false)

/-- Searches a stream; the answer is how many lines were found. -/
def grepStream (f : GrepFlags) (name : Text) (stream : Nat) (shown? : Option Nat) :
    Act (Except Refusal (Nat × Bool)) := do
  let start : GrepState := { shownRow := shown? }
  let r : Except Refusal (GrepState × Pending) ←
    Proc.iterate (fun ((s, p) : GrepState × Pending) => do
      if f.most = some 0 then return .inr (.ok (s, p))
      match ← nextPart f.mark p with
      | .error e => return .inr (.error e)
      | .ok (none, p) => return .inr (.ok (s, p))
      | .ok (some part, p) =>
        let (s, done) ← grepRow f name part s
        let enough := done || (f.most.any (· ≤ s.found) && s.owed = 0 && !f.count)
        if enough then return .inr (.ok (s, p)) else return .inl (s, p)) (.ok (start, { stream := stream }))
      Proc.ages (start, { stream := stream })
  match r with
  | .error e => return .error e
  | .ok (s, p) =>
    if f.most.isSome && name = ['-'] && p.rest ≠ [] then
      if (← (call (.sizeOf stream) : Act (Option Nat))).isSome then call (.seek stream p.rest.length)
    if s.binary && !f.skipBinary then
      emit ((← get).self ++ ": ".toList ++ fileLabel f name ++ ": binary file matches\n".toList)
    if f.count && !f.quiet && !f.names && !f.namesWithout then
      emit ((if f.titled then fileLabel f name ++ (if f.nameMark = [] then [':'] else f.nameMark) else []) ++
        Raw.ofNat s.found ++ ['\n'])
    let mark : Text := if f.nameMark = [] then ['\n'] else f.nameMark
    if f.names && !f.quiet && s.found ≠ 0 then emit (fileLabel f name ++ mark)
    if f.namesWithout && !f.quiet && s.found = 0 then emit (fileLabel f name ++ mark)
    return .ok (s.found, s.shownRow.isSome)

mutual

/-- The files below a node, as paths. -/
def filesBelow (skipDir skipFile : Text → Bool) (path : Text) : Node → List Text
  | .file .. => if skipFile (lastName path) then [] else [path]
  | .link _ => []
  | .dir es => entriesBelow skipDir skipFile path es

def entriesBelow (skipDir skipFile : Text → Bool) (path : Text) : FileTree.Entries → List Text
  | .nil => []
  | .cons n e rest =>
    let name := Raw.ofText n
    let p := if path = [] then name else if Text.endsWith path ['/'] then path ++ name
      else path ++ '/' :: name
    (if e.isDir && skipDir name then [] else filesBelow skipDir skipFile p e) ++
      entriesBelow skipDir skipFile path rest

end

def grepUsage : Act Unit := do
  let self := (← get).self
  let _ ← putRaw 2 ("Usage: ".toList ++ self ++ " [OPTION]... PATTERNS [FILE]...\nTry '".toList ++ self ++
    " --help' for more information.\n".toList)
  exit 2

/-- The expressions of a text with one in each line. -/
def regexesOf (fixed extended : Bool) (t : Text) : Act (List Regex) :=
  (Text.rows t).mapM fun row => do
    if fixed then return literal row
    else
      let isBareClass := match row with
        | '[' :: ':' :: r => Text.endsWith r [':', ']']
        | _ => false
      if isBareClass then
        die "character class syntax is [[:space:]], not [:space:]".toList 2
      match Regex.ofText extended row with
      | .ok r => return r
      | .error e => die e.message 2

def grepNumber (os : List Given) (c : Char) (what : String) : Act (Option Nat) := do
  match valueOf os c with
  | none => return none
  | some t =>
    if isDigits t then return some (number t)
    else if what = "" then die (t ++ ": invalid context length argument".toList) 2
    else die what.toList 2

def fits (patterns : List Text) (name : Text) : Bool :=
  patterns.any fun p =>
    Pattern.Glob.covers { wide := true } (Pattern.Glob.items (p.map fun c => ({ char := c } : Pattern.Glyph))) name

def grepProgram (extended fixed : Bool) : Program := fun args => do
  let (os, names) ← match parseFrom grepOptions false
      (args.foldl (fun n a => n + a.length + 3) 1) (contextArgs args) with
    | .ok p => pure p
    | .error m =>
      complain m
      grepUsage
      exit 2
  let dialect := (os.reverse.find? fun o => "EFGP".toList.contains o.letter).map (·.letter)
  let fixed := if dialect.isSome then dialect = some 'F' else fixed
  let extended := if dialect.isSome then dialect = some 'E' || dialect = some 'P' else extended
  let given := os.filter fun o => o.letter = 'e' || o.letter = 'f'
  let (texts, names) : List Text × List Text ←
    if given = [] then
      match names with
      | [] => do
        grepUsage
        exit 2
      | p :: r => pure ([p], r)
    else do
      let ts ← given.mapM fun o => do
        if o.letter = 'e' then return some o.text
        else
          match ← readFile o.text with
          | .ok [] => return none
          | .ok t => return some (if Text.endsWith t ['\n'] then t.dropLast else t)
          | .error e => die (shown o.text ++ ": ".toList ++ e.text) 2
      pure (ts.filterMap fun t => t, names)
  let regexes := (← texts.mapM (regexesOf fixed extended)).flatten
  let context ← grepNumber os 'C' ""
  let after ← grepNumber os 'A' ""
  let before ← grepNumber os 'B' ""
  let most ← grepNumber os 'm' "invalid max count"
  let deep := has os 'r' || has os 'R' || valueOf os 'd' = some "recurse".toList
  let t ← look
  let skipDir := fun (n : Text) =>
    fits ((os.filter (·.letter = '3')).map (·.text)) n
  let includes := (os.filter (·.letter = '1')).map (·.text)
  let excludes := (os.filter (·.letter = '2')).map (·.text)
  let skipFile := fun (n : Text) => (includes ≠ [] && !fits includes n) || fits excludes n
  let files : List Text :=
    if !deep then (if names = [] then [['-']] else names.filter fun n => !(excludes ≠ [] && skipFile (lastName n)))
    else if names = [] then
      match Pattern.nodeAt? t true ['.'] with
      | some (.dir es) => entriesBelow skipDir skipFile [] es
      | _ => []
    else names.flatMap fun n =>
      match Pattern.nodeAt? t true n with
      | some (.dir es) => entriesBelow skipDir skipFile n es
      | some _ => if skipFile (lastName n) then [] else [n]
      | none => [n]
  let nameFlag := (os.reverse.find? fun o => o.letter = 'H' || o.letter = 'h').map (·.letter)
  let f : GrepFlags := {
    wanted := { regexes := regexes, mode := { foldCase := (has os 'i' || has os 'y') && !has os '0' }
                word := has os 'w', line := has os 'x', inverted := has os 'v' }
    count := has os 'c', names := has os 'l', namesWithout := has os 'L', quiet := has os 'q'
    silent := has os 's', numbers := has os 'n', offsets := has os 'b', only := has os 'o'
    most := most, before := (before.or context).getD 0, after := (after.or context).getD 0
    separator := if has os '8' then none else some ((valueOf os '7').getD "--".toList)
    titled := if nameFlag.isSome then nameFlag = some 'H' else 2 ≤ names.length || deep
    asText := has os 'a' || has os 'z' || valueOf os '9' = some "text".toList
    skipBinary := has os 'I', mark := markOf os
    label := (valueOf os '6').getD "(standard input)".toList
    nameMark := if has os 'Z' then [Char.ofNat 0] else [] }
  let f := { f with before := if f.only then 0 else f.before, after := if f.only then 0 else f.after }
  let (found, failed, _) ← files.foldlM (fun ((found, failed, any) : Bool × Bool × Bool) name => do
    if f.quiet && found then return (found, failed, any)
    let opened : Except Refusal Unit ←
      if name = ['-'] then pure (.ok ()) else call (.openAs fileStream name .read)
    let trouble := fun (e : Refusal) => (do
      if !f.silent then
        flush
        complain (shown name ++ ": ".toList ++ e.text)
      return (found, true, any) : Act (Bool × Bool × Bool))
    match opened with
    | .error e => trouble e
    | .ok _ =>
      let r ← grepStream f name (if name = ['-'] then 0 else fileStream) (if any then some 0 else none)
      if name ≠ ['-'] then call (.close fileStream)
      match r with
      | .error e => trouble e
      | .ok (n, shownAny) =>
        let hit := if f.namesWithout then n = 0 else n ≠ 0
        return (found || hit, failed, any || shownAny)) (false, false, false)
  setStatus (if found && (f.quiet || !failed) then 0 else if failed then 2 else if found then 0 else 1)

end TestWeaver.Utility
