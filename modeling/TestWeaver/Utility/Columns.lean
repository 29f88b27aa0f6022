import TestWeaver.Pattern.Class
import TestWeaver.Utility.Content

/-!
Programs that work on the columns and the characters of lines.
-/

namespace TestWeaver.Utility

open Machine (Refusal)

/-! ### cut -/

/-- A range of columns; one without an end goes on. -/
structure Span where
  first : Nat
  last : Option Nat

def Span.has (n : Nat) (s : Span) : Bool := s.first ≤ n && s.last.all (n ≤ ·)

def spanOf (fields : Bool) (t : Text) : Act Span := do
  let bad : Act Span := misuse <|
    if fields then "invalid field value ".toList ++ curly t
    else "invalid byte/character position ".toList ++ curly t
  let checked := fun (s : Span) => (do
    if s.first = 0 || s.last = some 0 then
      misuse (if fields then "fields are numbered from 1"
        else "byte/character positions are numbered from 1").toList
    else if s.last.any (· < s.first) then misuse "invalid decreasing range".toList
    else return s : Act Span)
  match Text.cut? ['-'] t with
  | none => if isDigits t then checked ⟨number t, some (number t)⟩ else bad
  | some (a, b) =>
    if a = [] && b = [] then misuse "invalid range with no endpoint: -".toList
    else if !(a ++ b).all Char.isDigit then bad
    else checked ⟨if a = [] then 1 else number a, if b = [] then none else some (number b)⟩

def spansOf (fields : Bool) (t : Text) : Act (List Span) :=
  ((Text.splitAt ',' (Text.replaceChar ' ' ',' t))).mapM (spanOf fields)

/-- The columns that are wanted, in runs that follow one another. -/
def pickedRuns (wanted : Nat → Bool) (columns : List Text) : List (List Text) :=
  let marked := columns.zipIdx.map fun (c, i) => (c, wanted (i + 1))
  (marked.splitBy fun a b => a.2 = b.2).filterMap fun run =>
    if run.head?.any (·.2) then some (run.map (·.1)) else none

def cut : Program := fun args => do
  let (os, names) ← parse [⟨'b', "bytes", true, false⟩, ⟨'c', "characters", true, false⟩,
    ⟨'d', "delimiter", true, false⟩, ⟨'f', "fields", true, false⟩, ⟨'n', "", false, false⟩,
    ⟨'s', "only-delimited", false, false⟩, ⟨'z', "zero-terminated", false, false⟩,
    ⟨'!', "complement", false, false⟩, ⟨'o', "output-delimiter", true, false⟩] args
  let lists := os.filter fun o => o.letter = 'b' || o.letter = 'c' || o.letter = 'f'
  match lists with
  | [] => misuse "you must specify a list of bytes, characters, or fields".toList
  | _ :: _ :: _ => misuse "only one list may be specified".toList
  | [l] =>
    let fields := l.letter = 'f'
    let mark ← match valueOf os 'd' with
      | none => pure '\t'
      | some [c] => pure c
      | some [] => pure (Char.ofNat 0)
      | some _ => misuse "the delimiter must be a single character".toList
    if !fields && has os 'd' then
      misuse "an input delimiter may be specified only when operating on fields".toList
    if !fields && has os 's' then
      misuse "suppressing non-delimited lines makes sense\n\tonly when operating on fields".toList
    let spans ← spansOf fields l.text
    let wanted := fun (n : Nat) => (spans.any (·.has n)) ≠ has os '!'
    let rowMark : Char := markOf os
    for n in inputs names do
      match ← readFile n with
      | .error e =>
        flush
        grumble (plainComplaint n e)
      | .ok t =>
        for p in partsOf rowMark t do
          let row := if p.getLast? = some rowMark then p.dropLast else p
          if fields then
            if row.contains mark then
              let picked := (pickedRuns wanted (Text.splitAt mark row)).flatten
              emit (List.intercalate ((valueOf os 'o').getD [mark]) picked ++ [rowMark])
            else if !has os 's' then emit (row ++ [rowMark])
          else
            let runs := pickedRuns wanted (row.map fun c => [c])
            emit (List.intercalate ((valueOf os 'o').getD []) (runs.map List.flatten) ++ [rowMark])

/-! ### tr -/

/-- A part of a set of characters; one that is repeated fills up to the length of the other set. -/
inductive SetPart where
  | chars (t : Text)
  | repeated (c : Char) (count : Nat)
  | kind (name : Text) (t : Text)

def octets : Text := (List.range 256).map Char.ofNat

/-- One character of a set, perhaps behind a backslash. -/
def setChar : Text → Option (Char × Text)
  | [] => none
  | '\\' :: r =>
    match r with
    | [] => some ('\\', [])
    | c :: s =>
      if isOctalDigit c then
        let ds := (r.take 3).takeWhile isOctalDigit
        let ds := if 256 ≤ Decimal.Real.natIn 8 ds then ds.take 2 else ds
        some (Char.ofNat (Decimal.Real.natIn 8 ds), r.drop ds.length)
      else
        match (shortEscapes.filter fun e => e.1 ≠ 'e').lookup c with
        | some d => some (d, s)
        | none => some (c, s)
  | c :: r => some (c, r)

def reversedRange (a b : Char) : Act Unit :=
  die ("range-endpoints of '".toList ++ [a, '-', b] ++ "' are in reverse collating sequence order".toList)

/-- The parts of a set as it is written. -/
def setParts : Nat → Text → Act (List SetPart)
  | 0, _ => return []
  | _ + 1, [] => return []
  | n + 1, t => do
    let named : Option (Act SetPart × Text) :=
      match t with
      | '[' :: ':' :: r =>
        (Text.cut? [':', ']'] r).bind fun (name, rest) =>
          some (match Pattern.kind? name with
            | some f => return .kind name (octets.filter f)
            | none => die ("invalid character class ".toList ++ curly name), rest)
      | '[' :: '=' :: r =>
        (Text.cut? ['=', ']'] r).bind fun (name, rest) =>
          match name with
          | [c] => some (return .chars [c], rest)
          | _ => none
      | _ => none
    match named with
    | some (p, rest) => return (← p) :: (← setParts n rest)
    | none =>
      let repeated : Option (Char × Nat × Text) :=
        match t with
        | '[' :: r =>
          (setChar r).bind fun (c, s) =>
            match s with
            | '*' :: s =>
              let ds := s.takeWhile Char.isDigit
              match s.drop ds.length with
              | ']' :: rest =>
                some (c, if ds.head? = some '0' then Decimal.Real.natIn 8 ds else number ds, rest)
              | _ => none
            | _ => none
        | _ => none
      match repeated with
      | some (c, k, rest) => return .repeated c k :: (← setParts n rest)
      | none =>
        match setChar t with
        | none => return []
        | some (a, rest) =>
          match rest with
          | '-' :: r =>
            match setChar r with
            | some (b, rest) =>
              if b < a then
                reversedRange a b
                return []
              else return .chars (octets.filter fun c => a ≤ c && c ≤ b) :: (← setParts n rest)
            | none => return .chars [a] :: (← setParts n rest)
          | _ => return .chars [a] :: (← setParts n rest)

/-- The characters of a set; repeated ones fill up to a length. -/
def setChars (length : Nat) (parts : List SetPart) : Text :=
  let fixedLength := parts.foldl (fun n p =>
    match p with
    | .chars t | .kind _ t => n + t.length
    | .repeated _ k => n + k) 0
  parts.flatMap fun
    | .chars t | .kind _ t => t
    | .repeated c k => List.replicate (if k = 0 then length - fixedLength else k) c

def squeeze (s : Char → Bool) : Option Char → Text → Text
  | _, [] => []
  | last, c :: r => if last = some c && s c then squeeze s last r else c :: squeeze s (some c) r

/-- A case that is turned into the other one. -/
def turnsCase (a b : List SetPart) : List (Char × Char) :=
  (a.zip b).flatMap fun
    | (.kind m s, .kind n _) =>
      if m = "lower".toList && n = "upper".toList then s.map fun c => (c, c.toUpper)
      else if m = "upper".toList && n = "lower".toList then s.map fun c => (c, c.toLower)
      else []
    | _ => []

def hasKind (ps : List SetPart) : Bool := ps.any fun
  | .kind .. => true
  | _ => false

def tr : Program := fun args => do
  let (os, sets) ← parse [⟨'c', "complement", false, false⟩, ⟨'C', "", false, false⟩,
    ⟨'d', "delete", false, false⟩, ⟨'s', "squeeze-repeats", false, false⟩,
    ⟨'t', "truncate-set1", false, false⟩] args true
  let twoForDelete := has os 'd' && has os 's'
  let least := if has os 'd' && !has os 's' then 1 else if has os 's' && !has os 'd' then 1 else 2
  match sets with
  | [] => missingOperand
  | _ =>
    if sets.length < least then
      complain ("missing operand after ".toList ++ curly (sets.headD []))
      let _ ← putRaw 2 (if twoForDelete then
          "Two strings must be given when both deleting and squeezing repeats.\n"
        else "Two strings must be given when translating.\n").toList
      tryHelp
      exit 1
    let most := if has os 'd' && !has os 's' then 1 else 2
    if let x :: _ := sets.drop most then
      complain ("extra operand ".toList ++ curly x)
      if sets.length = 2 then
        let _ ← putRaw 2 "Only one string may be given when deleting without squeezing repeats.\n".toList
      tryHelp
      exit 1
    let text := sets.headD []
    let parts ← setParts (text.length + 1) text
    let first := setChars 0 parts
    let first := if has os 'c' || has os 'C' then octets.filter fun c => !first.contains c else first
    let secondText := sets.getD 1 []
    let parts2 ← setParts (secondText.length + 1) secondText
    let second := setChars first.length parts2
    let translates := sets.length = 2 && !has os 'd'
    if translates then
      let cases := fun (ps : List SetPart) => ps.any fun
        | .kind n _ => n ≠ "lower".toList && n ≠ "upper".toList
        | _ => false
      if cases parts2 then
        die ("when translating, the only character classes that may appear in\n" ++
          "string2 are 'upper' and 'lower'").toList
      if second = [] && !has os 't' then
        die "when not truncating set1, string2 must be non-empty".toList
      if (has os 'c' || has os 'C') && hasKind parts && (second.eraseDups).length ≠ 1 then
        die ("when translating with complemented character classes,\n" ++
          "string2 must map all characters in the domain to one").toList
    let turned := turnsCase parts parts2
    let first' := if has os 't' then first.take second.length else first
    let filled := second ++ List.replicate (first'.length - second.length) (second.getLast?.getD ' ')
    let table := (first'.zip filled).reverse
    let image := fun (c : Char) =>
      match turned.lookup c with
      | some d => d
      | none => (table.lookup c).getD c
    let images := octets.map image
    let all := images.toArray
    let step := fun (t : Text) =>
      if translates then t.map fun c => all[c.toNat]?.getD c
      else if has os 'd' then t.filter fun c => !first.contains c
      else t
    let squeezed : Text :=
      if !has os 's' then [] else if has os 'd' || translates then second else first
    match ← readStream 0 with
    | .error e => die ("read error: ".toList ++ e.text)
    | .ok t =>
      let t := step t
      emit (if has os 's' then squeeze squeezed.contains none t else t)

/-! ### paste, fold -/

/-- Marks between columns, with backslashes. -/
def pasteMarks : Text → List Text
  | [] => []
  | '\\' :: c :: r =>
    (match c with
      | 'n' => ['\n']
      | 't' => ['\t']
      | '0' => []
      | 'b' => ['\x08']
      | 'f' => ['\x0c']
      | 'r' => ['\r']
      | 'v' => ['\x0b']
      | c => [c]) :: pasteMarks r
  | c :: r => [c] :: pasteMarks r

/-- Texts with marks between them, used in turn. -/
def withMarks (marks : Array Text) (ts : List Text) : Text :=
  (ts.zipIdx.flatMap fun (t, i) =>
    if i = 0 then t else (marks[(i - 1) % marks.size]?.getD []) ++ t)

def paste : Program := fun args => do
  let (os, names) ← parse [⟨'d', "delimiters", true, false⟩, ⟨'s', "serial", false, false⟩,
    ⟨'z', "zero-terminated", false, false⟩] args
  let marks := (pasteMarks ((valueOf os 'd').getD ['\t'])).toArray
  let marks := if marks.isEmpty then #[[]] else marks
  let names := inputs names
  let ending : Char := if has os 'z' then Char.ofNat 0 else '\n'
  let rowsIn := fun (t : Text) => (partsOf ending t).map fun p => p.filter (· ≠ ending)
  let fromInput := names.filter (· = ['-'])
  let opened ← names.mapM fun n => do
    if n = ['-'] then return some []
    else
      match ← readFile n with
      | .ok t => return some (rowsIn t)
      | .error e =>
        flush
        grumble (plainComplaint n e)
        if !has os 's' then
          exit 1
        return none
  let own ← if fromInput = [] then pure [] else do
    match ← readStream 0 with
    | .ok t => pure (rowsIn t)
    | .error _ => pure []
  let count := fromInput.length
  let columns := (names.zip opened).foldl (fun (acc : List (List Text) × Nat) (n, rows) =>
    match rows with
    | none => acc
    | some rows =>
      if n = ['-'] then
        let mine := if has os 's' then (if acc.2 = 0 then own else [])
          else own.zipIdx.filterMap fun (r, i) => if i % count = acc.2 then some r else none
        (acc.1 ++ [mine], acc.2 + 1)
      else (acc.1 ++ [rows], acc.2)) ([], 0)
  if has os 's' then
    for rows in columns.1 do emit (withMarks marks rows ++ [ending])
  else
    let height := columns.1.foldl (fun m c => max m c.length) 0
    for i in List.range height do
      emit (withMarks marks (columns.1.map fun c => c.getD i []) ++ [ending])

/-- How far a character goes on in a line. -/
def columnAfter (octets : Bool) (column : Nat) (c : Char) : Nat :=
  if octets then column + 1
  else if c = '\x08' then column - 1
  else if c = '\r' then 0
  else if c = '\t' then column + (8 - column % 8)
  else column + 1

/-- A line cut in pieces that are not wider than `width`; the piece so far is kept the last
character first. -/
def foldRow (octets words : Bool) (width : Nat) : Nat → Text → Nat → Text → List Text
  | 0, acc, _, _ => [acc.reverse]
  | _ + 1, acc, _, [] => [acc.reverse]
  | n + 1, acc, column, c :: r =>
    let next := columnAfter octets column c
    if next ≤ width || acc = [] then foldRow octets words width n (c :: acc) next r
    else
      let cut := acc.dropWhile fun d => d ≠ ' ' && d ≠ '\t'
      if words && cut ≠ [] then
        let rest := (acc.take (acc.length - cut.length)).reverse
        cut.reverse :: foldRow octets words width n
          [] 0 (rest ++ c :: r)
      else acc.reverse :: foldRow octets words width n [] 0 (c :: r)

def foldLines : Program := fun args => do
  let args := match args with
    | ('-' :: c :: cs) :: r => if (c :: cs).all Char.isDigit then ("-w".toList ++ c :: cs) :: r else args
    | _ => args
  let (os, names) ← parse [⟨'b', "bytes", false, false⟩, ⟨'s', "spaces", false, false⟩,
    ⟨'w', "width", true, false⟩] args
  let width ← match valueOf os 'w' with
    | none => pure 80
    | some t =>
      if isDigits t && number t ≠ 0 then pure (number t)
      else
        die ("invalid number of columns: ".toList ++ curly t ++
          if isDigits t then ": ".toList ++ outOfRange else [])
  for n in inputs names do
    match ← readFile n with
    | .error e =>
      flush
      grumble (plainComplaint n e)
    | .ok t =>
      for p in partsOf '\n' t do
        let row := p.filter (· ≠ '\n')
        let ps := foldRow (has os 'b') (has os 's') width (2 * row.length * (row.length + 1) + 2) [] 0 row
        emit (List.intercalate ['\n'] ps ++ p.drop row.length)

/-! ### tabs -/

/-- Where the next tab stop is behind a column. -/
def nextStop (stops : List Nat) (column : Nat) : Option Nat :=
  match stops with
  | [n] => if n = 0 then none else some (column + (n - column % n))
  | _ => stops.find? (column < ·)

def expandRow (stops : List Nat) (initial : Bool) : Nat → Bool → Text → Text
  | _, _, [] => []
  | column, blank, c :: r =>
    if c = '\t' && (blank || !initial) then
      let next := (nextStop stops column).getD (column + 1)
      List.replicate (next - column) ' ' ++ expandRow stops initial next blank r
    else
      let column := if c = '\x08' then column - 1 else column + 1
      c :: expandRow stops initial column (blank && (c = ' ' || c = '\t')) r

/-- Turns blanks into tabs where they reach tab stops. -/
def unexpandRow (stops : List Nat) (all : Bool) : Nat → Nat → Nat → Bool → Text → Text
  | 0, _, _, _, _ => []
  | _ + 1, _, pending, _, [] => List.replicate pending ' '
  | n + 1, column, pending, blank, c :: r =>
    if (c = ' ' || c = '\t') && (blank || all) then
      let column' := if c = '\t' then (nextStop stops column).getD (column + 1) else column + 1
      let pending := pending + (column' - column)
      let atStop := (nextStop stops column).getD 0 = column'
      if c = '\t' || (atStop && (2 ≤ pending || r.head?.any fun d => d = ' ' || d = '\t')) then
        '\t' :: unexpandRow stops all n column' 0 blank r
      else unexpandRow stops all n column' pending blank r
    else List.replicate pending ' ' ++ c :: unexpandRow stops all n (column + 1) 0 false r

def tabStops (t : Option Text) : Act (List Nat) := do
  match t with
  | none => return [8]
  | some t =>
    let parts := (Text.splitAt ',' (Text.replaceChar ' ' ',' t)).filter (· ≠ [])
    if let some p := parts.find? fun p => !isDigits p then
      die ("tab size contains invalid character(s): ".toList ++ curly (p.dropWhile Char.isDigit))
    let stops := parts.map number
    if stops.contains 0 then die "tab size cannot be 0".toList
    if (stops.zip (stops.drop 1)).any fun (a, b) => b ≤ a then
      die "tab sizes must be ascending".toList
    return if stops = [] then [8] else stops

def eachRow (names : List Text) (f : Text → Text) : Act Unit := do
  for n in inputs names do
    match ← readFile n with
    | .error e =>
      flush
      grumble (plainComplaint n e)
    | .ok t =>
      for p in partsOf '\n' t do
        let row := p.filter (· ≠ '\n')
        emit (f row ++ p.drop row.length)

def expand : Program := fun args => do
  let (os, names) ← parse [⟨'i', "initial", false, false⟩, ⟨'t', "tabs", true, false⟩] args
  let stops ← tabStops (valueOf os 't')
  eachRow names (expandRow stops (has os 'i') 0 true)

def unexpand : Program := fun args => do
  let (os, names) ← parse [⟨'a', "all", false, false⟩, ⟨'f', "first-only", false, false⟩,
    ⟨'t', "tabs", true, false⟩] args
  let all := (has os 'a' || has os 't') && !has os 'f'
  let stops ← tabStops (valueOf os 't')
  eachRow names fun r => unexpandRow stops all (r.length + 1) 0 0 true r

/-! ### split -/

/-- The ending of the name of a piece. -/
def pieceName (length : Nat) (digits : Bool) (i : Nat) : Text :=
  let base := if digits then 10 else 26
  let first := if digits then 48 else 97
  (List.range length).reverse.map fun k => Char.ofNat (first + i / base.pow k % base)

def split : Program := fun args => do
  let args := match args with
    | ('-' :: c :: cs) :: r => if (c :: cs).all Char.isDigit then ("-l".toList ++ c :: cs) :: r else args
    | _ => args
  let (os, names) ← parse [⟨'a', "suffix-length", true, false⟩, ⟨'b', "bytes", true, false⟩,
    ⟨'C', "line-bytes", true, false⟩, ⟨'d', "", false, false⟩, ⟨'l', "lines", true, false⟩,
    ⟨'n', "number", true, false⟩, ⟨'x', "", false, false⟩,
    ⟨'s', "additional-suffix", true, false⟩] args
  if let x :: _ := names.drop 2 then extraOperand x
  for (c, what) in [('l', "lines"), ('b', "bytes"), ('n', "chunks")] do
    if let some t := valueOf os c then
      if ((count? t).filter (· ≠ 0)).isNone then
        die ("invalid number of ".toList ++ what.toList ++ ": ".toList ++ curly t)
  let name := names.headD ['-']
  let t ← match ← readFile name with
    | .ok t => pure t
    | .error e => die ("cannot open ".toList ++ inQuotes name ++ " for reading: ".toList ++ e.text)
  let start := names.getD 1 ['x']
  let ps : List Text :=
    match valueOf os 'b', valueOf os 'n' with
    | some b, _ =>
      let n := max 1 ((count? b).getD 1)
      (List.range ((t.length + n - 1) / n)).map fun i => (t.drop (i * n)).take n
    | none, some k =>
      let n := max 1 (number k)
      let size := t.length / n
      let more := t.length % n
      (List.range n).map fun i =>
        let first := i * size + min i more
        (t.drop first).take (size + if i < more then 1 else 0)
    | none, none =>
      let n := max 1 ((valueOf os 'l').bind count? |>.getD 1000)
      let rows := partsOf '\n' t
      (List.range ((rows.length + n - 1) / n)).map fun i => ((rows.drop (i * n)).take n).flatten
  let length := ((valueOf os 'a').map number).getD 2
  for (p, i) in ps.zipIdx do
    if Nat.pow (if has os 'd' then 10 else 26) length ≤ i then
      die "output file suffixes exhausted".toList
    let path := start ++ pieceName length (has os 'd') i ++ (valueOf os 's').getD []
    if let .error e ← writeFile path .write p then die (path ++ ": ".toList ++ e.text)

end TestWeaver.Utility
