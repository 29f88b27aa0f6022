import TestWeaver.Utility.Content

/-!
Lines in order: sorting them, and what can be done with sorted ones.
-/

namespace TestWeaver.Utility

open Decimal (Real)
open Machine (Refusal)

/-! ### keys -/

/-- How parts of lines are compared. -/
structure Manner where
  numeric : Bool := false
  general : Bool := false
  human : Bool := false
  month : Bool := false
  version : Bool := false
  fold : Bool := false
  dictionary : Bool := false
  printing : Bool := false
  reverse : Bool := false
  blanksStart : Bool := false
  blanksEnd : Bool := false
deriving DecidableEq, Repr

/-- A part of a line: fields and characters in them, counted from zero. -/
structure Key where
  startField : Nat := 0
  startChar : Nat := 0
  endField : Option Nat := none
  endChar : Nat := 0
  how : Manner := {}

def Manner.letter (o : Manner) (c : Char) : Option Manner :=
  match c with
  | 'n' => some { o with numeric := true }
  | 'g' => some { o with general := true }
  | 'h' => some { o with human := true }
  | 'M' => some { o with month := true }
  | 'V' => some { o with version := true }
  | 'f' => some { o with fold := true }
  | 'd' => some { o with dictionary := true }
  | 'i' => some { o with printing := true }
  | 'r' => some { o with reverse := true }
  | _ => none

def isSpace (c : Char) : Bool := c = ' ' || c = '\t' || c = '\n'

def skipField (t : Text) : Text := (t.dropWhile isSpace).dropWhile fun c => !isSpace c

/-- The text behind so many fields. -/
def behindFields (mark : Option Char) : Nat → Text → Text
  | 0, t => t
  | n + 1, t =>
    match mark with
    | none => behindFields mark n (skipField t)
    | some m => behindFields mark n ((t.dropWhile (· ≠ m)).drop 1)

/-- How far a key reaches into a line. -/
def keyEnd (mark : Option Char) (k : Key) (line : Text) : Nat :=
  match k.endField with
  | none => line.length
  | some f =>
    let fields := if k.endChar = 0 then f + 1 else f
    match mark with
    | none =>
      let rest := behindFields none fields line
      let rest := if k.endChar ≠ 0 && k.how.blanksEnd then rest.dropWhile isSpace else rest
      min line.length (line.length - rest.length + k.endChar)
    | some m =>
      let rest := behindFields (some m) (fields - 1) line
      let rest := if fields = 0 then line else rest.dropWhile (· ≠ m)
      let rest := if k.endChar ≠ 0 && fields ≠ 0 then rest.drop 1 else rest
      let rest := if k.endChar ≠ 0 && k.how.blanksEnd then rest.dropWhile isSpace else rest
      min line.length (line.length - rest.length + k.endChar)

def keyText (mark : Option Char) (k : Key) (line : Text) : Text :=
  let rest := behindFields mark k.startField line
  let rest := if k.how.blanksStart then rest.dropWhile isSpace else rest
  let start := min line.length (line.length - rest.length + k.startChar)
  (line.drop start).take (keyEnd mark k line - start)

/-- A decimal number in front of a text as a fraction. -/
def leadingNumber (t : Text) : Int × Nat × Text :=
  let t := t.dropWhile isSpace
  let (negative, t) : Bool × Text :=
    match t with
    | '-' :: r => (true, r)
    | r => (false, r)
  let whole := t.takeWhile Char.isDigit
  let rest := t.drop whole.length
  let (fraction, rest) : Text × Text :=
    match rest with
    | '.' :: r => (r.takeWhile Char.isDigit, r.dropWhile Char.isDigit)
    | r => ([], r)
  let n : Int := number (whole ++ fraction)
  (if negative then -n else n, Nat.pow 10 fraction.length, rest)

def ofInts (a b : Int) : Ordering := compare a b

def compareFractions (a b : Int × Nat × Text) : Ordering :=
  ofInts (a.1 * b.2.1) (b.1 * a.2.1)

def realOrder : Decimal.Real → Int × (Int × Nat)
  | .nan _ => (0, (0, 1))
  | .infinite true => (1, (0, 1))
  | .ratio s n d => (2, (if s then -(n : Int) else n, d))
  | .infinite false => (3, (0, 1))

def compareReals (a b : Text) : Ordering :=
  let of := fun (t : Text) =>
    match Real.read? 64 t with
    | none => ((-1 : Int), ((0 : Int), 1))
    | some (r, _) => realOrder r
  let (x, p) := of a
  let (y, q) := of b
  (ofInts x y).then (ofInts (p.1 * q.2) (q.1 * p.2))

def compareHuman (a b : Text) : Ordering :=
  let of := fun (t : Text) =>
    let n := leadingNumber t
    let power : Int := match n.2.2 with
      | c :: _ => ((("KMGTPEZY".toList.findIdx? (· = c.toUpper)).map fun i => ((i + 1 : Nat) : Int)).getD 0)
      | [] => 0
    let power := if n.1 < 0 then -power else if n.1 = 0 then 0 else power
    (n, power)
  let (n, p) := of a
  let (m, q) := of b
  let sign := fun (i : Int) => if i < 0 then (-1 : Int) else if i = 0 then 0 else 1
  (ofInts (sign n.1) (sign m.1)).then ((ofInts p q).then (compareFractions n m))

def monthOf (t : Text) : Int :=
  let name := ((t.dropWhile isSpace).take 3).map Char.toUpper
  let names := ["JAN", "FEB", "MAR", "APR", "MAY", "JUN", "JUL", "AUG", "SEP", "OCT", "NOV", "DEC"]
  match names.findIdx? fun m => m.toList = name with
  | some i => i + 1
  | none => 0

/-- The order of characters in versions: a tilde first, then the end, letters, and all others. -/
def versionOrder (c : Option Char) : Int :=
  match c with
  | none => 0
  | some c =>
    if c = '~' then -1
    else if c.isDigit then 0
    else if c.isAlpha then c.toNat
    else c.toNat + 256

/-- Versions: texts and numbers by turns. -/
def compareVersions : Nat → Text → Text → Ordering
  | 0, _, _ => .eq
  | n + 1, a, b =>
    if a = [] && b = [] then .eq
    else
      let isMark := fun (c : Option Char) => c.any fun c => !c.isDigit
      if isMark a.head? || isMark b.head? then
        let r := ofInts (versionOrder a.head?) (versionOrder b.head?)
        if r ≠ .eq then r else compareVersions n (a.drop 1) (b.drop 1)
      else
        let x := a.takeWhile Char.isDigit
        let y := b.takeWhile Char.isDigit
        let r := ofInts (number x) (number y)
        if r ≠ .eq then r else compareVersions n (a.drop x.length) (b.drop y.length)

def compareTexts : Text → Text → Ordering
  | [], [] => .eq
  | [], _ => .lt
  | _, [] => .gt
  | a :: as, b :: bs => if a = b then compareTexts as bs else compare a.toNat b.toNat

def compareBy (o : Manner) (a b : Text) : Ordering :=
  let shaped := fun (t : Text) =>
    let t := if o.dictionary then t.filter fun c => c.isAlphanum || c = ' ' || c = '\t' else t
    let t := if o.printing then t.filter fun c => 32 ≤ c.toNat && c.toNat < 127 else t
    if o.fold then t.map Char.toUpper else t
  let r :=
    if o.numeric then compareFractions (leadingNumber a) (leadingNumber b)
    else if o.general then compareReals a b
    else if o.human then compareHuman a b
    else if o.month then ofInts (monthOf a) (monthOf b)
    else if o.version then
      let r := compareVersions (a.length + b.length + 2) a b
      if r = .eq then compareTexts a b else r
    else compareTexts (shaped a) (shaped b)
  if o.reverse then r.swap else r

/-- A field and a character of a key, and the letters behind them. -/
def keyPart (t : Text) : Option (Nat × Option Nat × Text) :=
  let f := t.takeWhile Char.isDigit
  if f = [] then none
  else
    match t.drop f.length with
    | '.' :: r =>
      let c := r.takeWhile Char.isDigit
      if c = [] then none else some (number f, some (number c), r.drop c.length)
    | r => some (number f, none, r)

inductive KeyFault where
  | message (m : Text)

/-- Reads the letters of a key. -/
def keyLetters (atEnd : Bool) (o : Manner) : Text → Option Manner
  | [] => some o
  | 'b' :: r =>
    keyLetters atEnd (if atEnd then { o with blanksEnd := true } else { o with blanksStart := true }) r
  | c :: r => (o.letter c).bind fun o => keyLetters atEnd o r

def keyOf (t : Text) : Act Key := do
  let bad := fun (m : String) => (die (m.toList ++ ": invalid field specification ".toList ++ curly t) 2 :
    Act Key)
  let (first, last) : Text × Option Text :=
    match Text.cut? [','] t with
    | some (a, b) => (a, some b)
    | none => (t, none)
  match keyPart first with
  | none => die ("invalid number at field start: invalid count at start of ".toList ++ curly t) 2
  | some (f, c, letters) =>
    if f = 0 then bad "field number is zero"
    else if c = some 0 then bad "character offset is zero"
    else
      match keyLetters false {} letters with
      | none => bad "stray character in field spec"
      | some o =>
        let k : Key := { startField := f - 1, startChar := (c.getD 1) - 1, how := o }
        match last with
        | none => return k
        | some l =>
          match keyPart l with
          | none => die ("invalid number after ','".toList ++ ": invalid count at start of ".toList ++ curly l) 2
          | some (f, c, letters) =>
            if f = 0 then bad "field number is zero"
            else
              match keyLetters true o letters with
              | none => bad "stray character in field spec"
              | some o => return { k with endField := some (f - 1), endChar := c.getD 0, how := o }

structure SortOrder where
  keys : List Key
  mark : Option Char
  reverse : Bool
  whole : Bool

def SortOrder.byKeys (o : SortOrder) (a b : Text) : Ordering :=
  o.keys.foldl (fun r k =>
    if r = .eq then compareBy k.how (keyText o.mark k a) (keyText o.mark k b) else r) .eq

def SortOrder.compare (o : SortOrder) (a b : Text) : Ordering :=
  let r := o.byKeys a b
  if r ≠ .eq || !o.whole then r
  else
    let r := compareTexts a b
    if o.reverse then r.swap else r

/-- Of lines that count as equal one after another, the first. -/
def distinct (same : Text → Text → Bool) : List Text → List Text
  | [] => []
  | a :: r =>
    let rest := distinct same r
    match rest with
    | b :: s => if same a b then a :: s else a :: rest
    | [] => [a]

def sortOptions : List Known := [⟨'b', "ignore-leading-blanks", false, false⟩,
  ⟨'c', "", false, false⟩, ⟨'q', "check", true, true⟩, ⟨'C', "", false, false⟩, ⟨'d', "dictionary-order", false, false⟩,
  ⟨'f', "ignore-case", false, false⟩, ⟨'g', "general-numeric-sort", false, false⟩,
  ⟨'h', "human-numeric-sort", false, false⟩, ⟨'i', "ignore-nonprinting", false, false⟩,
  ⟨'k', "key", true, false⟩, ⟨'m', "merge", false, false⟩, ⟨'M', "month-sort", false, false⟩,
  ⟨'n', "numeric-sort", false, false⟩, ⟨'o', "output", true, false⟩,
  ⟨'r', "reverse", false, false⟩, ⟨'R', "random-sort", false, false⟩, ⟨'s', "stable", false, false⟩,
  ⟨'S', "buffer-size", true, false⟩, ⟨'t', "field-separator", true, false⟩,
  ⟨'T', "temporary-directory", true, false⟩, ⟨'u', "unique", false, false⟩,
  ⟨'V', "version-sort", false, false⟩, ⟨'z', "zero-terminated", false, false⟩]

def sortOrder (os : List Given) : Act SortOrder := do
  let base := os.foldl (fun (o : Manner) g =>
    if g.letter = 'b' then { o with blanksStart := true, blanksEnd := true }
    else (o.letter g.letter).getD o) {}
  let mark ← match valueOf os 't' with
    | none => pure none
    | some ['\\', '0'] => pure (some (Char.ofNat 0))
    | some [c] => pure (some c)
    | some [] => die "empty tab".toList 2
    | some t => die ("multi-character tab ".toList ++ curly t) 2
  let keys ← (os.filter (·.letter = 'k')).mapM fun o => keyOf o.text
  let keys := if keys = [] then [{ how := base }]
    else keys.map fun k => if k.how = {} then { k with how := base } else k
  return ⟨keys, mark, base.reverse, !has os 's' && !has os 'u'⟩

def sortProgram : Program := fun args => do
  let (os, names) ← parse sortOptions args false 2
  let os := os.map fun g =>
    if g.letter ≠ 'q' then g
    else if g.text = [] || g.text = "diagnose-first".toList then { g with letter := 'c' }
    else { g with letter := 'C' }
  let o ← sortOrder os
  let zero := has os 'z'
  let mark : Char := if zero then Char.ofNat 0 else '\n'
  let linesOf := fun (t : Text) =>
    let ps := Text.splitAt mark t
    if ps.getLast? = some [] then ps.dropLast else ps
  let texts ← (inputs names).mapM fun n => do
    match ← readFile n with
    | .ok t => return linesOf t
    | .error (.files .isDirectory) => die ("read failed: ".toList ++ shown n ++ ": Is a directory".toList) 2
    | .error e => die ("cannot read: ".toList ++ shown n ++ ": ".toList ++ e.text) 2
  let rows := texts.flatten
  if has os 'c' || has os 'C' then
    let strict := has os 'u'
    let isBad := fun (a b : Text) =>
      let r := o.compare a b
      r = .gt || (strict && r = .eq)
    match (rows.zip (rows.drop 1)).zipIdx.find? fun ((a, b), _) => isBad a b with
    | none => return
    | some ((_, b), i) =>
      if has os 'c' then
        let name := (inputs names).headD ['-']
        complain (name ++ ':' :: Raw.ofNat (i + 2) ++ ": disorder: ".toList ++ b)
      exit 1
  else
    let sorted := rows.mergeSort fun a b => o.compare a b ≠ .gt
    let sorted := if has os 'u' then distinct (fun a b => o.byKeys a b = .eq) sorted else sorted
    let out := sorted.flatMap fun r => r ++ [mark]
    match valueOf os 'o' with
    | none => emit out
    | some f =>
      match ← writeFile f .write out with
      | .ok _ => return
      | .error e => die ("open failed: ".toList ++ shown f ++ ": ".toList ++ e.text) 2

/-! ### repeated lines -/

/-- Lines that follow one another and count as equal. -/
def runsOf (same : Text → Text → Bool) : List Text → List (List Text)
  | [] => []
  | a :: r =>
    match runsOf same r with
    | (b :: g) :: gs => if same a b then (a :: b :: g) :: gs else [a] :: (b :: g) :: gs
    | gs => [a] :: gs

def countArg (os : List Given) (c : Char) (what : String) : Act (Option Nat) := do
  match valueOf os c with
  | none => return none
  | some t => if isDigits t then return some (number t) else die (shown t ++ ": ".toList ++ what.toList)

def uniq : Program := fun args => do
  let (os, names) ← parse [⟨'c', "count", false, false⟩, ⟨'d', "repeated", false, false⟩,
    ⟨'D', "", false, false⟩, ⟨'A', "all-repeated", true, true⟩, ⟨'G', "group", true, true⟩,
    ⟨'f', "skip-fields", true, false⟩,
    ⟨'i', "ignore-case", false, false⟩, ⟨'s', "skip-chars", true, false⟩,
    ⟨'u', "unique", false, false⟩, ⟨'w', "check-chars", true, false⟩,
    ⟨'z', "zero-terminated", false, false⟩] args
  let fields := (← countArg os 'f' "invalid number of fields to skip").getD 0
  let chars := (← countArg os 's' "invalid number of bytes to skip").getD 0
  let most ← countArg os 'w' "invalid number of bytes to compare"
  if let x :: _ := names.drop 2 then extraOperand x
  let grouped := has os 'G'
  let all := has os 'D' || has os 'A'
  let ways := if grouped then ["prepend", "append", "separate", "both"] else ["none", "prepend", "separate"]
  let way := (valueOf os (if grouped then 'G' else 'A')).getD []
  if way ≠ [] && !ways.any fun w => w.toList = way then
    complain ("invalid argument ".toList ++ curly way ++ " for ".toList ++
      curly (if grouped then "--group" else "--all-repeated").toList)
    let _ ← putRaw 2 ("Valid arguments are:\n".toList ++ ways.flatMap fun w =>
      "  - ".toList ++ curly w.toList ++ ['\n'])
    tryHelp
    exit 1
  if grouped && (has os 'c' || has os 'd' || has os 'u' || all) then
    misuse "--group is mutually exclusive with -c/-d/-D/-u".toList
  if has os 'c' && all then
    misuse "printing all duplicated lines and repeat counts is meaningless".toList
  let way := if way = [] && grouped then "separate".toList else way
  let t ← match ← readFile (names.headD ['-']) with
    | .ok t => pure t
    | .error (.files .isDirectory) => die ("error reading ".toList ++ inQuotes (names.headD []) ++ ": Is a directory".toList)
    | .error e => die (shown (names.headD []) ++ ": ".toList ++ e.text)
  let mark : Char := if has os 'z' then Char.ofNat 0 else '\n'
  let rows := (partsOf mark t).map fun p => p.filter (· ≠ mark)
  let keyOf := fun (r : Text) =>
    let r := (behindFields none fields r).drop chars
    let r := match most with
      | some n => r.take n
      | none => r
    if has os 'i' then r.map Char.toLower else r
  let gs := runsOf (fun a b => keyOf a = keyOf b) rows
  let gs := if has os 'd' || all then gs.filter (2 ≤ ·.length) else gs
  let gs := if has os 'u' then gs.filter (·.length = 1) else gs
  let isWay := fun (ws : List String) => ws.any fun w => w.toList = way
  let before := if isWay ["prepend", "both"] then [mark] else []
  let between := if isWay ["separate", "append"] then [mark] else []
  let after := if isWay ["append", "both"] && gs ≠ [] then [mark] else []
  let pieces := gs.map fun g =>
    let front := if has os 'c' then padLeft 7 (Raw.ofNat g.length) ++ [' '] else []
    let shownRows := if all || grouped then g else g.take 1
    before ++ shownRows.flatMap fun r => front ++ r ++ [mark]
  let out := List.intercalate between pieces ++ after
  match names with
  | [_, f] =>
    if let .error e ← writeFile f .write out then die (shown f ++ ": ".toList ++ e.text)
  | _ => emit out

/-! ### two sorted files -/

inductive Common where
  | left (t : Text)
  | right (t : Text)
  | both (t : Text)
  /-- A line of a file is greater than the next one. -/
  | disorder (file : Nat)

/-- What is in two files; `checked` says whether their order is minded already. -/
def merged (checked : Bool) : Nat → List Text → List Text → List Common
  | 0, _, _ => []
  | n + 1, a, b =>
    let go := fun (c : Common) (left right mind : Bool) =>
      let bad := fun (file : Nat) (rows : List Text) =>
        match rows with
        | x :: y :: _ => if mind && compareTexts x y = .gt then [Common.disorder file] else []
        | _ => []
      c :: ((if left then bad 1 a else []) ++ (if right then bad 2 b else []) ++
        merged mind n (if left then a.drop 1 else a) (if right then b.drop 1 else b))
    match a, b with
    | [], [] => []
    | [], y :: _ => go (.right y) false true true
    | x :: _, [] => go (.left x) true false true
    | x :: _, y :: _ =>
      match compareTexts x y with
      | .lt => go (.left x) true false true
      | .gt => go (.right y) false true true
      | .eq => go (.both x) true true checked

def needFile (name : Text) (status : Nat := 1) : Act Text := do
  match ← readFile name with
  | .ok t => return t
  | .error e => die (shown name ++ ": ".toList ++ e.text) status

def comm : Program := fun args => do
  let (os, names) ← parse [⟨'1', "", false, false⟩, ⟨'2', "", false, false⟩, ⟨'3', "", false, false⟩,
    ⟨'c', "check-order", false, false⟩, ⟨'n', "nocheck-order", false, false⟩,
    ⟨'t', "total", false, false⟩, ⟨'o', "output-delimiter", true, false⟩] args
  match names with
  | [] => missingOperand
  | [a] => missingOperandAfter a
  | [a, b] =>
    let left := plainRows (← needFile a)
    let right := plainRows (← needFile b)
    let tab := (valueOf os 'o').getD ['\t']
    let first := if has os '1' then [] else tab
    let second := if has os '2' then [] else tab
    let cs := merged (has os 'c') (left.length + right.length + 1) left right
    let mut told : List Nat := []
    for c in cs do
      match c with
      | .left t => if !has os '1' then emitLine t
      | .right t => if !has os '2' then emitLine (first ++ t)
      | .both t => if !has os '3' then emitLine (first ++ second ++ t)
      | .disorder file =>
        if !has os 'n' && !told.contains file then
          told := file :: told
          let m := "file ".toList ++ Raw.ofNat file ++ " is not in sorted order".toList
          if has os 'c' then die m else grumble m
    if has os 't' then
      let count := fun (f : Common → Bool) => Raw.ofNat (cs.countP f)
      emitLine (count (fun | .left _ => true | _ => false) ++ tab ++
        count (fun | .right _ => true | _ => false) ++ tab ++
        count (fun | .both _ => true | _ => false) ++ tab ++ "total".toList)
    if (← get).status ≠ 0 then complain "input is not in sorted order".toList
  | _ :: _ :: x :: _ => extraOperand x

/-- The fields of a line. -/
def fieldsIn (mark : Option Char) (t : Text) : List Text :=
  match mark with
  | some m => Text.splitAt m t
  | none => wordsOf t

structure Joining where
  mark : Option Char
  fold : Bool
  one : Nat
  two : Nat
  empty : Text
  wanted : Option (List (Nat × Nat))

def joinKey (j : Joining) (field : Nat) (t : Text) : Text :=
  let k := (fieldsIn j.mark t).getD field []
  if j.fold then k.map Char.toLower else k

def joinedRow (j : Joining) (a b : Option Text) : Text :=
  let sep : Text := [(j.mark.getD ' ')]
  let fa := (a.map (fieldsIn j.mark)).getD []
  let fb := (b.map (fieldsIn j.mark)).getD []
  let key := if a.isSome then fa.getD j.one [] else fb.getD j.two []
  let filled := fun (t : Option Text) =>
    match t with
    | some [] | none => j.empty
    | some t => t
  match j.wanted with
  | some ws =>
    List.intercalate sep (ws.map fun (file, field) =>
      if file = 0 then filled (some key)
      else if file = 1 then filled fa[field - 1]? else filled fb[field - 1]?)
  | none =>
    List.intercalate sep (key :: (fa.eraseIdx j.one).map (fun t => filled (some t)) ++
      (fb.eraseIdx j.two).map fun t => filled (some t))

inductive JoinedRow where
  | pair (t : Text)
  | alone (file : Nat) (t : Text)
  /-- A line of a file, so many before the end, is less than the one before it. -/
  | disorder (file left : Nat) (row : Text)

/-- Complaints about the first lines of a file, one more than so many. -/
def joinDisorder (j : Joining) (file : Nat) : Nat → List Text → List JoinedRow
  | n + 1, x :: y :: r =>
    let field := if file = 1 then j.one else j.two
    let rest := joinDisorder j file n (y :: r)
    if compareTexts (joinKey j field x) (joinKey j field y) = .gt then
      .disorder file (r.length + 1) y :: rest
    else rest
  | _, _ => []

/-- The lines of two files side by side; `checked` says whether their order is minded already. -/
def joinRows (j : Joining) (checked : Bool) : Nat → List Text → List Text → List JoinedRow
  | 0, _, _ => []
  | n + 1, a, b =>
    let go := fun (rows : List JoinedRow) (left right : Nat) (mind : Bool) =>
      rows ++ (if mind then joinDisorder j 1 left a ++ joinDisorder j 2 right b else []) ++
        joinRows j mind n (a.drop left) (b.drop right)
    match a, b with
    | [], [] => []
    | [], y :: _ => go [.alone 2 (joinedRow j none (some y))] 0 1 checked
    | x :: _, [] => go [.alone 1 (joinedRow j (some x) none)] 1 0 checked
    | x :: _, y :: _ =>
      let key := joinKey j j.one x
      match compareTexts key (joinKey j j.two y) with
      | .lt => go [.alone 1 (joinedRow j (some x) none)] 1 0 true
      | .gt => go [.alone 2 (joinedRow j none (some y))] 0 1 true
      | .eq =>
        let left := a.takeWhile fun r => joinKey j j.one r = key
        let right := b.takeWhile fun r => joinKey j j.two r = key
        let pairs := left.flatMap fun x =>
          right.map fun y => JoinedRow.pair (joinedRow j (some x) (some y))
        let bad := if checked then
            joinDisorder j 1 left.length a ++ joinDisorder j 2 right.length b
          else []
        bad ++ pairs ++ joinRows j checked n (a.drop left.length) (b.drop right.length)

/-- The fields that are asked for: the number of a file and that of a field, or the key. -/
def wantedFields (t : Text) : Act (List (Nat × Nat)) :=
  ((t.map fun c => if c = ',' then ' ' else c) |> wordsOf).mapM fun w =>
    let bad := die ("invalid field specifier: ".toList ++ curly w)
    match Text.splitAt '.' w with
    | [['0']] => return (0, 0)
    | [[f], n] =>
      if f ≠ '1' && f ≠ '2' then die ("invalid file number in field spec: ".toList ++ curly w)
      else if !isDigits n || number n = 0 then die ("invalid field number: ".toList ++ curly n)
      else return (f.toNat - 48, number n)
    | (f :: _) :: _ =>
      if f ≠ '0' && f ≠ '1' && f ≠ '2' then
        die ("invalid file number in field spec: ".toList ++ curly w)
      else bad
    | _ => bad

def join : Program := fun args => do
  let (os, names) ← parse [⟨'1', "", true, false⟩, ⟨'2', "", true, false⟩, ⟨'a', "", true, false⟩,
    ⟨'e', "", true, false⟩, ⟨'i', "ignore-case", false, false⟩, ⟨'j', "", true, false⟩,
    ⟨'o', "", true, false⟩, ⟨'t', "", true, false⟩, ⟨'v', "", true, false⟩,
    ⟨'c', "check-order", false, false⟩, ⟨'n', "nocheck-order", false, false⟩,
    ⟨'h', "header", false, false⟩] args
  match names with
  | [] => missingOperand
  | [a] => missingOperandAfter a
  | [a, b] =>
    let field := fun (c : Char) => do
      match (valueOf os c).or (valueOf os 'j') with
      | none => return 0
      | some t =>
        if isDigits t && number t ≠ 0 then return number t - 1
        else die ("invalid field number: ".toList ++ curly t)
    let one ← field '1'
    let two ← field '2'
    let wanted ← match valueOf os 'o' with
      | none => pure none
      | some t => if t = "auto".toList then pure none else do pure (some (← wantedFields t))
    let j : Joining := {
      mark := (valueOf os 't').bind List.head?, fold := has os 'i', one := one, two := two
      empty := (valueOf os 'e').getD [], wanted := wanted }
    let left := plainRows (← needFile a)
    let right := plainRows (← needFile b)
    let alone := fun (n : Nat) => os.any fun o =>
      (o.letter = 'a' || o.letter = 'v') && o.text = Raw.ofNat n
    let header := has os 'h' && (left ≠ [] || right ≠ [])
    if header then emitLine (joinedRow j left.head? right.head?)
    let rest := fun (rows : List Text) => if header then rows.drop 1 else rows
    let mut told : List Nat := []
    for r in joinRows j (has os 'c') (left.length + right.length + 1) (rest left) (rest right) do
      match r with
      | .pair t => if !has os 'v' then emitLine t
      | .alone n t => if alone n then emitLine t
      | .disorder file later row =>
        if !has os 'n' && !told.contains file then
          told := file :: told
          let line := (if file = 1 then left else right).length - later + 1
          let m := (if file = 1 then a else b) ++ ':' :: Raw.ofNat line ++ ": is not sorted: ".toList ++ row
          if has os 'c' then die m else grumble m
    if (← get).status ≠ 0 then complain "input is not in sorted order".toList
  | _ :: _ :: x :: _ => misuse ("extra operand ".toList ++ inQuotes x)

/-- Names so that each comes before those that it must; the rest if that cannot be. -/
def topological : Nat → List Text → List (Text × Text) → List Text × List Text
  | 0, names, _ => ([], names)
  | n + 1, names, pairs =>
    let free := names.filter fun x => !pairs.any fun (a, b) => b = x && a ≠ x
    match free with
    | [] => ([], names)
    | _ =>
      let (sorted, left) := topological n (names.filter fun x => !free.contains x)
        (pairs.filter fun (a, _) => !free.contains a)
      (free ++ sorted, left)

def tsort : Program := fun args => do
  let (_, names) ← parse [] args
  if let x :: _ := names.drop 1 then extraOperand x
  let ws := wordsOf (← needFile (names.headD ['-']))
  if ws.length % 2 ≠ 0 then
    die (shown (names.headD ['-']) ++ ": input contains an odd number of tokens".toList)
  let pairs := pieces2 (ws.length + 1) ws
  let all := (ws.foldl (fun (acc : List Text) w => if acc.contains w then acc else acc ++ [w]) [])
  let all := all.mergeSort fun a b => compareTexts a b ≠ .gt
  let (sorted, left) := topological (all.length + 1) all pairs
  for n in sorted do emitLine n
  if left ≠ [] then
    flush
    grumble (shown (names.headD ['-']) ++ ": input contains a loop:".toList)
    for n in left do complain n
    for n in left do emitLine n
where
  pieces2 : Nat → List Text → List (Text × Text)
    | 0, _ => []
    | n + 1, a :: b :: r => (a, b) :: pieces2 n r
    | _, _ => []

end TestWeaver.Utility
