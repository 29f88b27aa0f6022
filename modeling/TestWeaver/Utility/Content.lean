import TestWeaver.Text.Blank
import TestWeaver.Text.Quoted
import TestWeaver.Utility.Words

/-!
Programs that show files, or parts of them.
-/

namespace TestWeaver.Utility

open Decimal (Real)
open Machine (Proc Refusal)

/-- Does something with each piece of a file as it is read; a dash means the input. -/
def eachChunk (name : Text) (f : Text → Act Unit) : Act (Option Refusal) := do
  let go := fun (stream : Nat) =>
    (Proc.iterate (fun (_ : Unit) => do
      match ← readChunk stream with
      | .ok [] => return .inr none
      | .ok t =>
        f t
        return .inl ()
      | .error e => return .inr (some e)) none Proc.ages () : Act (Option Refusal))
  if name = ['-'] then go 0
  else
    match ← (call (.openAs fileStream name .read) : Act (Except Refusal Unit)) with
    | .error e => return some e
    | .ok _ =>
      let r ← go fileStream
      call (.close fileStream)
      return r

/-! ### cat -/

structure CatState where
  row : Nat := 0
  /-- How many line breaks came last; a text begins behind one. -/
  breaks : Nat := 1

structure CatFlags where
  all : Bool
  filled : Bool
  squeeze : Bool
  ends : Bool
  tabs : Bool
  controls : Bool

/-- A character as it can be seen. -/
def visible (c : Char) : Text :=
  let n := c.toNat
  let low := fun (n : Nat) =>
    if n < 32 then ['^', Char.ofNat (n + 64)]
    else if n = 127 then ['^', '?'] else [Char.ofNat n]
  if 128 ≤ n then 'M' :: '-' :: low (n - 128) else low n

def catStep (f : CatFlags) (p : CatState × List Text) (c : Char) : CatState × List Text :=
  let (s, out) := p
  let numbered := fun (s : CatState) (out : List Text) =>
    let n := Raw.ofNat (s.row + 1)
    ({ s with row := s.row + 1 },
      (List.replicate (6 - n.length) ' ' ++ n ++ ['\t']) :: out)
  if c = '\n' then
    if f.squeeze && 2 ≤ s.breaks then (s, out)
    else
      let (s, out) := if 1 ≤ s.breaks && f.all && !f.filled then numbered s out else (s, out)
      ({ s with breaks := s.breaks + 1 }, (if f.ends then ['$', '\n'] else ['\n']) :: out)
  else
    let (s, out) := if 1 ≤ s.breaks && (f.all || f.filled) then numbered s out else (s, out)
    let t :=
      if c = '\t' then (if f.tabs then ['^', 'I'] else [c])
      else if f.controls then visible c else [c]
    ({ s with breaks := 0 }, t :: out)

def writeOut (t : Text) : Act Unit := do
  match ← putRaw 1 t with
  | .ok _ => return
  | .error e => die ("write error: ".toList ++ e.text)

def cat : Program := fun args => do
  let (os, names) ← parse [⟨'A', "show-all", false, false⟩, ⟨'b', "number-nonblank", false, false⟩,
    ⟨'e', "", false, false⟩, ⟨'E', "show-ends", false, false⟩, ⟨'n', "number", false, false⟩,
    ⟨'s', "squeeze-blank", false, false⟩, ⟨'t', "", false, false⟩,
    ⟨'T', "show-tabs", false, false⟩, ⟨'u', "", false, false⟩,
    ⟨'v', "show-nonprinting", false, false⟩] args
  let any := fun (cs : List Char) => cs.any (has os)
  let f : CatFlags := ⟨has os 'n', has os 'b', has os 's', any ['A', 'e', 'E'],
    any ['A', 't', 'T'], any ['A', 'e', 't', 'v']⟩
  let plain := !(f.all || f.filled || f.squeeze || f.ends || f.tabs || f.controls)
  let _ ← (inputs names).foldlM (fun (s : CatState) name => do
    let (r, s) : Option Refusal × CatState ←
      if plain then do
        let r ← eachChunk name writeOut
        pure (r, s)
      else do
        match ← readFile name with
        | .ok t =>
          let (s, out) := t.foldl (catStep f) (s, [])
          emit out.reverse.flatten
          pure (none, s)
        | .error e =>
          flush
          pure (some e, s)
    if let some e := r then grumble (shown name ++ ": ".toList ++ e.text)
    return s) {}

/-! ### counts -/

/-- Letters behind a number that multiply it. -/
def multiplier? (t : Text) : Option Nat :=
  let powers : List (Char × Nat) :=
    [('K', 1), ('k', 1), ('M', 2), ('G', 3), ('T', 4), ('P', 5), ('E', 6)]
  match t with
  | [] => some 1
  | ['b'] => some 512
  | [c] => (powers.lookup c).map fun p => Nat.pow 1024 p
  | [c, 'B'] => (powers.lookup c).map fun p => Nat.pow 1000 p
  | [c, 'i', 'B'] => (powers.lookup c).map fun p => Nat.pow 1024 p
  | _ => none

def count? (t : Text) : Option Nat :=
  let ds := t.takeWhile Char.isDigit
  if ds = [] then none else (multiplier? (t.drop ds.length)).map (number ds * ·)

/-- How much of a file is asked for: lines or octets, and what the number is counted from. -/
structure Amount where
  lines : Bool := true
  count : Nat := 10
  mark : Option Char := none

def amount (lines : Bool) (t : Text) : Act Amount := do
  let (mark, ds) : Option Char × Text :=
    match t with
    | '-' :: r => (some '-', r)
    | '+' :: r => (some '+', r)
    | r => (none, r)
  match count? ds with
  | some n => return ⟨lines, n, mark⟩
  | none =>
    die ("invalid number of ".toList ++ (if lines then "lines: " else "bytes: ").toList ++
      curly t)

/-- The first argument in the old way: a number behind a dash, and letters. -/
def oldAmount (args : List Text) : List Text :=
  match args with
  | ('-' :: c :: cs) :: rest =>
    if c.isDigit then
      let ds := (c :: cs).takeWhile Char.isDigit
      let letters := (c :: cs).drop ds.length
      let o : Text := if letters.contains 'c' then "-c".toList else "-n".toList
      let others := letters.filter fun c => c ≠ 'c' && c ≠ 'l'
      (o ++ ds) :: (if others = [] then rest else ('-' :: others) :: rest)
    else args
  | _ => args

def headOptions : List Known := [⟨'n', "lines", true, false⟩, ⟨'c', "bytes", true, false⟩,
  ⟨'q', "quiet", false, false⟩, ⟨'q', "silent", false, false⟩, ⟨'v', "verbose", false, false⟩,
  ⟨'z', "zero-terminated", false, false⟩]

/-- The name that a file is shown by. -/
def titleOf (name : Text) : Text := if name = ['-'] then "standard input".toList else name

/-- Writes the name of a file above its content, with an empty line between files. -/
def title (isFirst : Bool) (name : Text) : Act Unit :=
  emit ((if isFirst then [] else ['\n']) ++ "==> ".toList ++ titleOf name ++ " <==\n".toList)

/-- So many pieces up to and with a mark. -/
def takeParts (mark : Char) : Nat → Text → Text
  | 0, _ => []
  | n + 1, t =>
    let a := t.takeWhile (· ≠ mark)
    match t.drop a.length with
    | [] => a
    | m :: r => a ++ m :: takeParts mark n r

/-- The pieces of a text, each with the mark at its end if it has one. -/
def partsOf (mark : Char) (t : Text) : List Text :=
  let ps := Text.splitAt mark t
  ps.dropLast.map (· ++ [mark]) ++ (match ps.getLast? with
    | some [] | none => []
    | some p => [p])

/-- What has to be shown of a stream that is read only as far as it must. Reading too much is
made up for where that is possible. -/
def headOfStream (stream : Nat) (a : Amount) (mark : Char) : Act (Option Refusal) := do
  let enough := fun (t : Text) => if a.lines then takeParts mark a.count t else t.take a.count
  let isDone := fun (t : Text) => if a.lines then a.count ≤ t.count mark else a.count ≤ t.length
  if a.count = 0 then return none
  let r : Option Refusal ← Proc.iterate (fun (acc : Text) => do
    match ← (call (.read stream 8192) : Act (Except Refusal Text)) with
    | .error e => return .inr (some e)
    | .ok [] =>
      emit acc
      return .inr none
    | .ok t =>
      let acc := acc ++ t
      if isDone acc then
        let shown := enough acc
        if (← (call (.sizeOf stream) : Act (Option Nat))).isSome then
          call (.seek stream (acc.length - shown.length))
        emit shown
        return .inr none
      else return .inl acc) none Proc.ages []
  return r

/-- All of a file but its end. -/
def allBut (a : Amount) (mark : Char) (t : Text) : Text :=
  if a.lines then
    let ps := partsOf mark t
    (ps.take (ps.length - a.count)).flatten
  else t.take (t.length - a.count)

/-- Opens a file for something to be done with its stream; says so if it cannot. -/
def withStream (name : Text) (refused : Refusal → Act Unit) (f : Nat → Act Unit) : Act Unit := do
  if name = ['-'] then f 0
  else
    match ← (call (.openAs fileStream name .read) : Act (Except Refusal Unit)) with
    | .error e => refused e
    | .ok _ =>
      f fileStream
      call (.close fileStream)

def cannotOpen (name : Text) (e : Refusal) : Act Unit := do
  flush
  grumble ("cannot open ".toList ++ inQuotes (titleOf name) ++ " for reading: ".toList ++ e.text)

def errorReading (name : Text) (e : Refusal) : Act Unit := do
  flush
  grumble ("error reading ".toList ++ inQuotes (titleOf name) ++ ": ".toList ++ e.text)

/-- Shows a part of each file, under its name if there are several. -/
def showParts (os : List Given) (names : List Text) (part : Text → Nat → Act (Option Refusal)) :
    Act Unit := do
  let noisy := if has os 'v' || has os 'q' then
      (os.reverse.find? fun o => o.letter = 'v' || o.letter = 'q').map (·.letter) = some 'v'
    else 2 ≤ names.length
  let _ ← (inputs names).foldlM (fun (isFirst : Bool) name => do
    let opened : Bool ←
      if name = ['-'] then pure true
      else
        match ← (call (.openAs fileStream name .read) : Act (Except Refusal Unit)) with
        | .ok _ => pure true
        | .error e =>
          cannotOpen name e
          pure false
    if opened then
      let stream := if name = ['-'] then 0 else fileStream
      if noisy then title isFirst name
      if let some e ← part name stream then errorReading name e
      if name ≠ ['-'] then call (.close fileStream)
      return false
    else return isFirst) true

def amountOf (os : List Given) : Act Amount := do
  match os.reverse.find? fun o => o.letter = 'n' || o.letter = 'c' with
  | some o => amount (o.letter = 'n') o.text
  | none => return {}

def markOf (os : List Given) : Char := if has os 'z' then Char.ofNat 0 else '\n'

def head : Program := fun args => do
  let (os, names) ← parse headOptions (oldAmount args)
  let a ← amountOf os
  let mark := markOf os
  showParts os names fun _ stream => do
    if a.mark = some '-' then
      match ← readStream stream with
      | .ok t =>
        emit (allBut a mark t)
        return none
      | .error e => return some e
    else headOfStream stream a mark

/-- The end of a text, or all from a place on. -/
def tailOf (a : Amount) (mark : Char) (t : Text) : Text :=
  if a.mark = some '+' then
    if a.lines then ((partsOf mark t).drop (a.count - 1)).flatten else t.drop (a.count - 1)
  else if a.lines then
    let ps := partsOf mark t
    (ps.drop (ps.length - a.count)).flatten
  else t.drop (t.length - a.count)

def tail : Program := fun args => do
  let args := match args with
    | ('+' :: c :: cs) :: rest =>
      if (c :: cs).all Char.isDigit then ("-n+".toList ++ c :: cs) :: rest else args
    | _ => oldAmount args
  let (os, names) ← parse (headOptions ++ [⟨'f', "follow", false, false⟩, ⟨'F', "", false, false⟩,
    ⟨'s', "sleep-interval", true, false⟩]) args
  let a ← amountOf os
  showParts os names fun _ stream => do
    match ← readStream stream with
    | .ok t =>
      emit (tailOf a (markOf os) t)
      return none
    | .error e => return some e
  if has os 'f' || has os 'F' then
    flush
    call (.sleep century)

/-! ### wc -/

structure Counts where
  lines : Nat := 0
  words : Nat := 0
  chars : Nat := 0
  octets : Nat := 0
  widest : Nat := 0

namespace Counts

def add (a b : Counts) : Counts :=
  ⟨a.lines + b.lines, a.words + b.words, a.chars + b.chars, a.octets + b.octets,
    max a.widest b.widest⟩

structure Scan where
  words : Nat := 0
  inWord : Bool := false
  column : Nat := 0
  widest : Nat := 0

def isBlank (c : Char) : Bool :=
  Real.isBlank c || [0xA0, 0x2007, 0x202F, 0x2060].contains c.toNat || Text.isBlank c && 128 ≤ c.toNat

def step (s : Scan) (c : Char) : Scan :=
  let ended := fun (s : Scan) =>
    { s with inWord := false, words := s.words + if s.inWord then 1 else 0 }
  if c = '\n' || c = '\r' || c = '\x0c' then
    ended { s with widest := max s.widest s.column, column := 0 }
  else if c = '\t' then ended { s with column := s.column + (8 - s.column % 8) }
  else if isBlank c then ended { s with column := s.column + if c = '\x0b' then 0 else 1 }
  else if Text.isPrintable c then { s with inWord := true, column := s.column + 1 }
  else s

end Counts

/-- Which counts are shown, in their order. -/
def countsShown (os : List Given) (c : Counts) : List Nat :=
  let any := ['l', 'w', 'm', 'c', 'L'].any (has os)
  let on := fun (l : Char) (byDefault : Bool) (n : Nat) =>
    if has os l || (!any && byDefault) then [n] else []
  on 'l' true c.lines ++ on 'w' true c.words ++ on 'm' false c.chars ++ on 'c' true c.octets ++
    on 'L' false c.widest

def padLeft (width : Nat) (t : Text) : Text := List.replicate (width - t.length) ' ' ++ t

def padRight (width : Nat) (t : Text) : Text := t ++ List.replicate (width - t.length) ' '

def countsLine (os : List Given) (width : Nat) (c : Counts) (name : Text) : Text :=
  let ns := (countsShown os c).map fun n => padLeft width (Raw.ofNat n)
  List.intercalate [' '] (if name = [] then ns else ns ++ [name])

/-- How wide the numbers are, by the sizes of the files. -/
def countsWidth (os : List Given) (names : List Text) : Act Nat := do
  if names.length = 1 && (countsShown os {}).length = 1 then return 1
  let t ← look
  let sizes : List (Option (Option Nat)) ←
    if names = [] then do
      if (countsShown os {}).length = 1 then pure [none]
      else pure [some (← (call (.sizeOf 0) : Act (Option Nat)))]
    else
      names.mapM fun n => do
        if n = ['-'] then return some (← (call (.sizeOf 0) : Act (Option Nat)))
        else
          return (Pattern.nodeAt? t true n).map fun
            | .file bs _ => if isDevice t n then none else some bs.length
            | _ => none
  let known := sizes.filterMap id
  let total := (known.filterMap id).foldl (· + ·) 0
  let least := if known.any Option.isNone then 7 else 1
  return max least (Raw.ofNat total).length

/-- Counts a stream piece by piece. -/
def countStream (stream : Nat) : Act (Except Refusal Counts) := do
  let r : Except Refusal (Counts × Counts.Scan) ← Proc.iterate
    (fun ((c, s, left) : Counts × Counts.Scan × Text) => do
      let step := fun (t : Text) =>
        let cs := (Raw.toText t).filter (· ≠ Char.ofNat 0xFFFD)
        (c.add { lines := t.count '\n', chars := cs.length, octets := t.length },
          cs.foldl Counts.step s)
      match ← readChunk stream with
      | .ok [] => return .inr (.ok (step left))
      | .ok t =>
        let t := left ++ t
        let whole := (t.reverse.dropWhile fun c => 0x80 ≤ c.toNat).reverse
        let (c, s) := step whole
        return .inl (c, s, t.drop whole.length)
      | .error e => return .inr (.error e)) (.ok ({}, {})) Proc.ages ({}, {}, [])
  return r.map fun (c, s) =>
    { c with words := s.words + (if s.inWord then 1 else 0), widest := max s.widest s.column }

def wc : Program := fun args => do
  let (os, names) ← parse [⟨'c', "bytes", false, false⟩, ⟨'m', "chars", false, false⟩,
    ⟨'l', "lines", false, false⟩, ⟨'w', "words", false, false⟩,
    ⟨'L', "max-line-length", false, false⟩, ⟨'T', "total", true, false⟩,
    ⟨'F', "files0-from", true, false⟩] args
  let width ← countsWidth os names
  let total ← (inputs names).foldlM (fun (total : Counts) name => do
    let opened : Except Refusal Unit ←
      if name = ['-'] then pure (.ok ()) else call (.openAs fileStream name .read)
    match opened with
    | .error e =>
      flush
      grumble (shown name ++ ": ".toList ++ e.text)
      return total
    | .ok _ =>
      let r ← countStream (if name = ['-'] then 0 else fileStream)
      if name ≠ ['-'] then call (.close fileStream)
      let c := r.toOption.getD {}
      if let .error e := r then
        flush
        grumble (shown name ++ ": ".toList ++ e.text)
      emitLine (countsLine os width c (if names = [] then [] else name))
      return total.add c) {}
  if 2 ≤ names.length then emitLine (countsLine os width total "total".toList)

/-! ### other orders -/

/-- Reads files one after another; what cannot be read is complained about. -/
def readAllInputs (names : List Text) (complaint : Text → Refusal → Text) : Act Text := do
  let ts ← (inputs names).mapM fun n => do
    match ← readFile n with
    | .ok t => return t
    | .error e =>
      flush
      grumble (complaint n e)
      return []
  return ts.flatten

def plainComplaint (name : Text) (e : Refusal) : Text := shown name ++ ": ".toList ++ e.text

/-- A text cut behind each mark, or before it; what was left before the last mark comes first. -/
def markedPieces (next : Text → Option (Nat × Nat)) (before : Bool) : Nat → Text → Text → List Text
  | 0, front, t => [front ++ t]
  | n + 1, front, t =>
    match next t with
    | none => if front ++ t = [] then [] else [front ++ t]
    | some (a, b) =>
      if before then (front ++ t.take a) :: markedPieces next before n ((t.drop a).take (b - a)) (t.drop b)
      else t.take b :: markedPieces next before n [] (t.drop b)

/-- The files with their lines in the opposite order. -/
def tac : Program := fun args => do
  let (os, names) ← parse [⟨'b', "before", false, false⟩, ⟨'r', "regex", false, false⟩,
    ⟨'s', "separator", true, false⟩] args
  let mark := (valueOf os 's').getD ['\n']
  if mark = [] && has os 'r' then die "separator cannot be empty".toList
  let mark := if mark = [] then [Char.ofNat 0] else mark
  let next : Text → Option (Nat × Nat) ←
    if has os 'r' then
      match Pattern.Regex.ofText false mark with
      | .error e => die e.message
      | .ok r => pure fun t => (r.search {} t).bind fun m =>
          if m.first < m.last then some (m.first, m.last) else none
    else pure fun t => (Text.cut? mark t).map fun (a, _) => (a.length, a.length + mark.length)
  for n in inputs names do
    match ← readFile n with
    | .ok t => emit (markedPieces next (has os 'b') (t.length + 1) [] t).reverse.flatten
    | .error (.files .isDirectory) =>
      flush
      grumble (shown n ++ ": read error: Is a directory".toList)
    | .error e =>
      flush
      grumble ("failed to open ".toList ++ inQuotes n ++ " for reading: ".toList ++ e.text)

def rev : Program := fun args => do
  let (_, names) ← parse [⟨'0', "zero", false, false⟩] args
  for n in inputs names do
    match ← readFile n with
    | .ok t =>
      for row in rowsOf t do
        let body := row.filter (· ≠ '\n')
        emit (Raw.ofText (Raw.toText body).reverse ++ row.drop body.length)
    | .error e =>
      flush
      grumble ("cannot open ".toList ++ n ++ ": ".toList ++ e.text)

/-! ### nl -/

inductive Numbering where
  | all
  | filled
  | none
  | matching (r : Pattern.Regex)

def numbering (part : String) (t : Text) : Act Numbering := do
  match t with
  | ['a'] => return .all
  | ['t'] => return .filled
  | ['n'] => return .none
  | 'p' :: r =>
    match Pattern.Regex.ofText false r with
    | .ok r => return .matching r
    | .error e => die e.message
  | _ =>
    misuse ("invalid ".toList ++ part.toList ++ " numbering style: ".toList ++ curly t)

def Numbering.isAll : Numbering → Bool
  | all => true
  | _ => false

def Numbering.takes (n : Numbering) (row : Text) : Bool :=
  match n with
  | all => true
  | filled => row ≠ []
  | none => false
  | matching r => (r.search {} row).isSome

def zeroPadded (width : Nat) (n : Int) : Text :=
  ({ zero := true, width := width } : Decimal.Directive).integer n

def nl : Program := fun args => do
  let (os, names) ← parse [⟨'b', "body-numbering", true, false⟩,
    ⟨'d', "section-delimiter", true, false⟩, ⟨'f', "footer-numbering", true, false⟩,
    ⟨'h', "header-numbering", true, false⟩, ⟨'i', "line-increment", true, false⟩,
    ⟨'l', "join-blank-lines", true, false⟩, ⟨'n', "number-format", true, false⟩,
    ⟨'p', "no-renumber", false, false⟩, ⟨'s', "number-separator", true, false⟩,
    ⟨'v', "starting-line-number", true, false⟩, ⟨'w', "number-width", true, false⟩] args
  let style := fun (c : Char) (part : String) (byDefault : Text) =>
    numbering part ((valueOf os c).getD byDefault)
  let body ← style 'b' "body" ['t']
  let header ← style 'h' "header" ['n']
  let footer ← style 'f' "footer" ['n']
  let intOf := fun (c : Char) (byDefault : Int) (what : String) => (do
    match valueOf os c with
    | none => return byDefault
    | some t =>
      match integer? t with
      | some n => return n
      | none => die ("invalid ".toList ++ what.toList ++ ": ".toList ++ curly t) : Act Int)
  let start ← intOf 'v' 1 "starting line number"
  let step ← intOf 'i' 1 "line number increment"
  let width := (← intOf 'w' 6 "line number field width").toNat
  let separator := (valueOf os 's').getD ['\t']
  let shownNumber := fun (n : Int) =>
    match String.ofList ((valueOf os 'n').getD []) with
    | "ln" => padRight width (Raw.ofInt n)
    | "rz" => zeroPadded width n
    | _ => padLeft width (Raw.ofInt n)
  let joined := (← intOf 'l' 1 "line number of blank lines").toNat
  let t ← readAllInputs names plainComplaint
  let marks : List (Text × Numbering) :=
    [("\\:\\:\\:".toList, header), ("\\:\\:".toList, body), ("\\:".toList, footer)]
  let _ ← (plainRows t).foldlM (fun ((n, style, blanks) : Int × Numbering × Nat) row => do
    match marks.find? fun m => m.1 = row with
    | some (_, style) =>
      emit ['\n']
      return (if has os 'p' then n else start, style, blanks)
    | none =>
      let counts := style.isAll && 1 < joined
      let blanks := if counts then (if row = [] then blanks + 1 else 0) else blanks
      if style.takes row && !(counts && row = [] && blanks ≠ joined) then
        emitLine (shownNumber n ++ separator ++ row)
        return (n + step, style, if blanks = joined then 0 else blanks)
      else
        emitLine (List.replicate (width + separator.length) ' ' ++ row)
        return (n, style, blanks)) (start, body, 0)

/-- Copies the input to the output and to files. -/
def tee : Program := fun args => do
  let (os, names) ← parse [⟨'a', "append", false, false⟩, ⟨'i', "ignore-interrupts", false, false⟩,
    ⟨'p', "", false, false⟩] args
  let opened ← names.zipIdx.filterMapM fun (n, i) => do
    let stream := fileStream + 1 + i
    match ← (call (.openAs stream n (if has os 'a' then .append else .write)) :
        Act (Except Refusal Unit)) with
    | .ok _ => return some stream
    | .error e =>
      grumble (shown n ++ ": ".toList ++ e.text)
      return none
  let _ ← eachChunk ['-'] fun t => (1 :: opened).forM fun s => do
    let _ ← putRaw s t

end TestWeaver.Utility
