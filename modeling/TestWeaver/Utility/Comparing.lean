import TestWeaver.Utility.Sorting

/-!
Comparing files, and telling how they differ.
-/

namespace TestWeaver.Utility

open FileTree (Node)
open Machine (Refusal)

/-! ### octet by octet -/

/-- The place of the first difference, and the line it is in. -/
def firstDifference : Nat → Nat → Text → Text → Option (Nat × Nat)
  | n, line, a :: as, b :: bs =>
    if a = b then firstDifference (n + 1) (if a = '\n' then line + 1 else line) as bs
    else some (n, line)
  | _, _, _, _ => none

/-- Complains about how the program was called, with its name in each line, and ends. -/
def misuseTwice {α : Type} (m : Text) : Act α := do
  complain m
  complain ("Try '".toList ++ (← get).self ++ " --help' for more information.".toList)
  exit 2

def parseTwice (known : List Known) (args : List Text) : Act Parsed := do
  match parseFrom known false (args.foldl (fun n a => n + a.length + 1) 1) args with
  | .ok p => return p
  | .error m => misuseTwice m

/-- An octet in digits, and as a character where that is wanted. -/
def octetShown (os : List Given) (pad : Bool) (c : Char) : Text :=
  let v := visible c
  padLeft 3 (Nat.toDigits 8 c.toNat) ++
    if has os 'b' then ' ' :: (if pad then padRight 4 v else v) else []

def cmp : Program := fun args => do
  let (os, names) ← parseTwice [⟨'s', "silent", false, false⟩, ⟨'s', "quiet", false, false⟩,
    ⟨'l', "verbose", false, false⟩, ⟨'b', "print-bytes", false, false⟩,
    ⟨'n', "bytes", true, false⟩, ⟨'i', "ignore-initial", true, false⟩] args
  match names with
  | [] => misuseTwice ("missing operand after '".toList ++ (← get).self ++ ['\''])
  | a :: r =>
    if let x :: _ := r.drop 3 then misuseTwice ("extra operand '".toList ++ x ++ ['\''])
    let b := r.headD ['-']
    let initial := (valueOf os 'i').map (Text.splitAt ':')
    let skip := fun (i : Nat) =>
      (((initial.bind fun ts => ts[i]?.or ts.getLast?).or r[i + 1]?).bind count?).getD 0
    let load := fun (n : Text) => (do
      match ← readFile n with
      | .ok t => return t
      | .error e =>
        if has os 's' then exit 2 else die (n ++ ": ".toList ++ e.text) 2 : Act Text)
    let s := (← load a).drop (skip 0)
    let t := (← load b).drop (skip 1)
    let (s, t) := match (valueOf os 'n').bind count? with
      | some n => (s.take n, t.take n)
      | none => (s, t)
    if s ≠ t then
      setStatus 1
      if !has os 's' then
        if has os 'l' then
          let width := (Raw.ofNat (max s.length t.length)).length
          for ((x, y), i) in (s.zip t).zipIdx do
            if x ≠ y then
              emitLine (padLeft width (Raw.ofNat (i + 1)) ++ ' ' :: octetShown os true x ++
                ' ' :: octetShown os false y)
          if s.length ≠ t.length then
            flush
            complain ("EOF on ".toList ++ (if s.length < t.length then a else b) ++ " after byte ".toList ++
              Raw.ofNat (min s.length t.length))
        else
          match firstDifference 1 1 s t with
          | some (n, line) =>
            emitLine (a ++ ' ' :: b ++ " differ: byte ".toList ++ Raw.ofNat n ++ ", line ".toList ++
              Raw.ofNat line ++ match s[n - 1]?, t[n - 1]? with
                | some x, some y =>
                  if has os 'b' then
                    " is ".toList ++ octetShown os false x ++ ' ' :: octetShown os false y
                  else []
                | _, _ => [])
          | none =>
            let n := min s.length t.length
            let short := if s.length < t.length then a else b
            let common := s.take n
            let lines := common.count '\n'
            let place := if n = 0 then " which is empty".toList
              else " after byte ".toList ++ Raw.ofNat n ++
                (if common.getLast? = some '\n' then ", line ".toList ++ Raw.ofNat lines
                  else ", in line ".toList ++ Raw.ofNat (lines + 1))
            flush
            complain ("EOF on ".toList ++ short ++ place)

/-! ### line by line -/

/-- What two sequences have in common: pairs of places. The table holds the length of the longest
common part of the rests from each place on. -/
def commonLengths (a b : Array Text) : Array (Array Nat) :=
  let blank : Array Nat := Array.replicate (b.size + 1) 0
  (List.range a.size).reverse.foldl (fun (rows : List (Array Nat)) i =>
    let below := rows.headD blank
    let row := (List.range b.size).reverse.foldl (fun (row : Array Nat) j =>
      let n := if a[i]? = b[j]? then below[j + 1]?.getD 0 + 1
        else max (below[j]?.getD 0) (row[j + 1]?.getD 0)
      row.set! j n) blank
    row :: rows) [blank] |>.toArray

/-- A change: lines of the first file from a place on, which became lines of the second. -/
structure Change where
  first : Nat
  removed : Nat
  second : Nat
  added : Nat
deriving Repr, Inhabited

/-- Goes through both files along a longest common part. -/
def changesFrom (a b : Array Text) (table : Array (Array Nat)) : Nat → Nat → Nat → Option Change →
    List Change
  | 0, _, _, c => c.toList
  | n + 1, i, j, c =>
    let at_ := fun (i j : Nat) => ((table[i]?.bind (·[j]?)).getD 0)
    let open_ := c.getD ⟨i, 0, j, 0⟩
    if i < a.size && j < b.size && a[i]? = b[j]? then
      c.toList ++ changesFrom a b table n (i + 1) (j + 1) none
    else if i < a.size && (b.size ≤ j || at_ i (j + 1) ≤ at_ (i + 1) j) then
      changesFrom a b table n (i + 1) j (some { open_ with removed := open_.removed + 1 })
    else if j < b.size then
      changesFrom a b table n i (j + 1) (some { open_ with added := open_.added + 1 })
    else c.toList

/-- Moves a change that only removes or only adds as far down as it goes. -/
def slide (a b : Array Text) : Nat → Change → Change
  | 0, c => c
  | n + 1, c =>
    if c.added = 0 && c.removed ≠ 0 && c.first + c.removed < a.size &&
        a[c.first]? = a[c.first + c.removed]? then
      slide a b n { c with first := c.first + 1, second := c.second + 1 }
    else if c.removed = 0 && c.added ≠ 0 && c.second + c.added < b.size &&
        b[c.second]? = b[c.second + c.added]? then
      slide a b n { c with first := c.first + 1, second := c.second + 1 }
    else c

/-- Changes that touch are one. -/
def joinChanges : List Change → List Change
  | c :: d :: r =>
    match joinChanges (d :: r) with
    | d :: r =>
      if c.first + c.removed = d.first && c.second + c.added = d.second then
        ⟨c.first, c.removed + d.removed, c.second, c.added + d.added⟩ :: r
      else c :: d :: r
    | [] => [c]
  | cs => cs

/-- The changes that turn some lines into others; keys say which lines count as the same. -/
def changesOf (a b : Array Text) : List Change :=
  let front := ((a.toList.zip b.toList).takeWhile fun (x, y) => x = y).length
  let x := a.extract front a.size
  let y := b.extract front b.size
  let back := ((x.toList.reverse.zip y.toList.reverse).takeWhile fun (p, q) => p = q).length
  let x := x.extract 0 (x.size - back)
  let y := y.extract 0 (y.size - back)
  let cs := (changesFrom x y (commonLengths x y) (x.size + y.size + 1) 0 0 none).map fun c =>
    { c with first := c.first + front, second := c.second + front }
  let slid := cs.map fun c => slide a b (a.size + b.size) c
  joinChanges slid

/-! ### side by side -/

/-- Blanks from one column to another, with tabs where they fit. -/
def blanksTo (start stop : Nat) : Text :=
  let tabs := stop / 8 - start / 8
  let at_ := if tabs = 0 then start else stop / 8 * 8
  List.replicate tabs '\t' ++ List.replicate (stop - at_) ' '

/-- The part of a line that fits in a column, and where it ends. -/
def halfRow (bound start : Nat) : Nat → Text → Text × Nat
  | at_, [] => ([], at_)
  | at_, c :: r =>
    if c = '\t' then
      let next := (at_ - start) / 8 * 8 + 8 + start
      if next < bound + start then
        let (t, stop) := halfRow bound start next r
        ('\t' :: t, stop)
      else ([], at_)
    else if at_ < bound + start then
      let (t, stop) := halfRow bound start (at_ + 1) r
      (c :: t, stop)
    else ([], at_)

/-- A line of each file, or of one of them, with a sign between them. -/
def besideRow (width : Nat) (left : Option Text) (sign : Char) (right : Option Text) : Text :=
  let middle := width / 2 + 5 + (if width % 2 = 1 then 1 else 0)
  let column := middle - middle % 8
  let half := min (column - 3) (width - column)
  let body := fun (t : Text) => t.filter (· ≠ '\n')
  let isWhole := fun (t : Option Text) => t.any fun t => Text.endsWith t ['\n']
  let (a, at_) := match left with
    | some t => halfRow half 0 0 (body t)
    | none => ([], 0)
  let sign := if sign = '|' && isWhole left ≠ isWhole right then
      (if isWhole left then '/' else '\\') else sign
  let (b, at_) : Text × Nat :=
    if sign = ' ' then ([], at_)
    else
      let place := (half + column - 1) / 2
      (blanksTo at_ place ++ [sign], place + 1)
  let c : Text := match right with
    | some t => if body t = [] then [] else
        blanksTo at_ column ++ (halfRow half column column (body t)).1
    | none => []
  a ++ b ++ c ++ if isWhole left || isWhole right then ['\n'] else []

/-- All lines side by side, with the changes marked. -/
def besideRows (width : Nat) (all : Bool) (a b : Array Text) : Nat → Nat → List Change → Text
  | i, j, cs =>
    let part := fun (rows : Array Text) (first count : Nat) => (rows.extract first (first + count)).toList
    let common := fun (i j count : Nat) => if all then
        ((part a i count).zip (part b j count)).flatMap fun (x, y) =>
          besideRow width (some x) ' ' (some y)
      else []
    match cs with
    | [] => common i j (a.size - i)
    | c :: r =>
      let both := min c.removed c.added
      common i j (c.first - i) ++
        ((part a c.first both).zip (part b c.second both)).flatMap (fun (x, y) =>
          besideRow width (some x) '|' (some y)) ++
        (part b (c.second + both) (c.added - both)).flatMap (fun y => besideRow width none '>' (some y)) ++
        (part a (c.first + both) (c.removed - both)).flatMap (fun x => besideRow width (some x) '<' none) ++
        besideRows width all a b (c.first + c.removed) (c.second + c.added) r

/-! ### scripts -/

/-- Changes as commands for an editor of lines, the last first. -/
def scriptOf (b : Array Text) (cs : List Change) : Text :=
  cs.reverse.flatMap fun c =>
    let letter := if c.removed = 0 then 'a' else if c.added = 0 then 'd' else 'c'
    let place := if c.removed = 0 then Raw.ofNat c.first
      else if c.removed = 1 then Raw.ofNat (c.first + 1)
      else Raw.ofNat (c.first + 1) ++ ',' :: Raw.ofNat (c.first + c.removed)
    place ++ letter :: '\n' :: (b.extract c.second (c.second + c.added)).toList.flatten ++
      if c.added = 0 then [] else ".\n".toList

/-- Changes as commands that count their lines. -/
def countedOf (b : Array Text) (cs : List Change) : Text :=
  cs.flatMap fun c =>
    let row := fun (letter : Char) (n count : Nat) =>
      letter :: Raw.ofNat n ++ ' ' :: Raw.ofNat count ++ ['\n']
    (if c.removed = 0 then [] else row 'd' (c.first + 1) c.removed) ++
      if c.added = 0 then []
      else row 'a' (c.first + c.removed) c.added ++
        (b.extract c.second (c.second + c.added)).toList.flatten

structure DiffFlags where
  blanks : Bool := false
  allBlanks : Bool := false
  fold : Bool := false
  emptyLines : Bool := false
  /-- Lines that do not count where all lines of a change are such. -/
  ignored : Option Pattern.Regex := none
  /-- Whether the line is shown that a part belongs to. -/
  titled : Bool := false

/-- What counts of a line. -/
def diffKey (f : DiffFlags) (t : Text) : Text :=
  let body := if f.fold then t.map Char.toLower else t
  if f.allBlanks then body.filter fun c => !Decimal.Real.isBlank c
  else if f.blanks then
    let ws := wordsOf body
    (if body.head?.any Decimal.Real.isBlank then [' '] else []) ++ List.intercalate [' '] ws
  else body

def rangeText (first count : Nat) : Text :=
  if count = 0 then Raw.ofNat first
  else if count = 1 then Raw.ofNat (first + 1)
  else Raw.ofNat (first + 1) ++ ',' :: Raw.ofNat (first + count)

/-- Lines with a mark in front; the last line may have no line break. -/
def markedRows (mark : Text) (rows : Array Text) (first count : Nat) : Text :=
  (rows.extract first (first + count)).toList.flatMap fun r =>
    if Text.endsWith r ['\n'] then mark ++ r
    else mark ++ r ++ "\n\\ No newline at end of file\n".toList

def normalChange (a b : Array Text) (c : Change) : Text :=
  let letter := if c.removed = 0 then 'a' else if c.added = 0 then 'd' else 'c'
  rangeText c.first c.removed ++ letter :: rangeText c.second c.added ++ '\n' ::
    markedRows ['<', ' '] a c.first c.removed ++
    (if letter = 'c' then "---\n".toList else []) ++ markedRows ['>', ' '] b c.second c.added

/-- Changes with so many lines around them, in groups that do not touch. -/
def hunks (context : Nat) : List Change → List (List Change)
  | [] => []
  | c :: r =>
    match hunks context r with
    | (d :: g) :: gs =>
      if d.first ≤ c.first + c.removed + 2 * context then (c :: d :: g) :: gs else [c] :: (d :: g) :: gs
    | gs => [c] :: gs

def unifiedRange (first count : Nat) : Text :=
  if count = 1 then Raw.ofNat (first + 1)
  else Raw.ofNat (if count = 0 then first else first + 1) ++ ',' :: Raw.ofNat count

/-- The lines of a group from a place on. -/
def unifiedRows (a b : Array Text) : Nat → Nat → List Change → Text
  | at_, stop, [] => markedRows [' '] a at_ (stop - at_)
  | at_, stop, c :: r =>
    markedRows [' '] a at_ (c.first - at_) ++ markedRows ['-'] a c.first c.removed ++
      markedRows ['+'] b c.second c.added ++ unifiedRows a b (c.first + c.removed) stop r

def unifiedHunk (heading : Nat → Text) (context : Nat) (a b : Array Text) (g : List Change) : Text :=
  match g, g.getLast? with
  | c :: _, some d =>
    let start := c.first - context
    let stop := min a.size (d.first + d.removed + context)
    let start2 := c.second - (c.first - start)
    let stop2 := d.second + d.added + (stop - (d.first + d.removed))
    "@@ -".toList ++ unifiedRange start (stop - start) ++ " +".toList ++
      unifiedRange start2 (stop2 - start2) ++ " @@".toList ++ heading start ++ '\n' :: unifiedRows a b start stop g
  | _, _ => []

def contextRange (first count : Nat) : Text :=
  if count ≤ 1 then Raw.ofNat (first + count)
  else Raw.ofNat (first + 1) ++ ',' :: Raw.ofNat (first + count)

def contextRows (rows : Array Text) (letter : Char) (place : Change → Nat × Nat)
    (both : Change → Bool) : Nat → Nat → List Change → Text
  | at_, stop, [] => markedRows [' ', ' '] rows at_ (stop - at_)
  | at_, stop, c :: r =>
    let (first, count) := place c
    markedRows [' ', ' '] rows at_ (first - at_) ++
      markedRows [if both c then '!' else letter, ' '] rows first count ++
      contextRows rows letter place both (first + count) stop r

def contextHunk (heading : Nat → Text) (context : Nat) (a b : Array Text) (g : List Change) : Text :=
  match g, g.getLast? with
  | c :: _, some d =>
    let start := c.first - context
    let stop := min a.size (d.first + d.removed + context)
    let start2 := c.second - (c.first - start)
    let stop2 := d.second + d.added + (stop - (d.first + d.removed))
    let both := fun (c : Change) => c.removed ≠ 0 && c.added ≠ 0
    "***************".toList ++ heading start ++ "\n*** ".toList ++ contextRange start (stop - start) ++ " ****\n".toList ++
      (if g.any fun c => c.removed ≠ 0 then
        contextRows a '-' (fun c => (c.first, c.removed)) both start stop g else []) ++
      "--- ".toList ++ contextRange start2 (stop2 - start2) ++ " ----\n".toList ++
      if g.any fun c => c.added ≠ 0 then
        contextRows b '+' (fun c => (c.second, c.added)) both start2 stop2 g else []
  | _, _ => []

/-- The time of a file, which is not known. -/
def fileTime : Text := "1970-01-01 00:00:00.000000000 +0000".toList

inductive DiffStyle where
  | normal
  | script
  | counted
  | beside (width : Nat) (all : Bool)
  | unified (context : Nat)
  | contextual (context : Nat)
  | brief

def diffTexts (style : DiffStyle) (f : DiffFlags) (labels : List Text) (an bn s t : Text) :
    Option Text :=
  let a := (partsOf '\n' s).toArray
  let b := (partsOf '\n' t).toArray
  let key := fun (r : Text) =>
    if Text.endsWith r ['\n'] || f.blanks || f.allBlanks then diffKey f (r.filter (· ≠ '\n'))
    else diffKey f r ++ ['\x00']
  let cs := changesOf (a.map key) (b.map key)
  let cs := if !f.emptyLines then cs else cs.filter fun c =>
    !((a.extract c.first (c.first + c.removed)).all (· = ['\n']) &&
      (b.extract c.second (c.second + c.added)).all (· = ['\n']))
  if cs = [] then none
  else
    let name := fun (i : Nat) (n : Text) => (labels[i]?).getD (n ++ '\t' :: fileTime)
    let skips := fun (r : Text) => f.ignored.any fun p => (p.search {} (r.filter (· ≠ '\n'))).isSome
    let counts := fun (g : List Change) => f.ignored.isNone || g.any fun c =>
      !((a.extract c.first (c.first + c.removed)).all skips &&
        (b.extract c.second (c.second + c.added)).all skips)
    let heading := fun (first : Nat) =>
      if f.titled then
        match (a.extract 0 first).toList.reverse.find? fun r =>
            r.head?.any fun c => c.isAlpha || c = '_' || c = '$' with
        | some r => ' ' :: ((r.filter (· ≠ '\n')).take 40)
        | none => []
      else []
    let groups := fun (n : Nat) => (hunks n cs).filter counts
    let cs := cs.filter fun c => counts [c]
    some <| match style with
      | .normal => cs.flatMap (normalChange a b)
      | .script => scriptOf b cs
      | .counted => countedOf b cs
      | .beside width all => besideRows width all a b 0 0 cs
      | .unified n =>
        "--- ".toList ++ name 0 an ++ "\n+++ ".toList ++ name 1 bn ++ '\n' ::
          (groups n).flatMap (unifiedHunk heading n a b)
      | .contextual n =>
        "*** ".toList ++ name 0 an ++ "\n--- ".toList ++ name 1 bn ++ '\n' ::
          (groups n).flatMap (contextHunk heading n a b)
      | .brief => "Files ".toList ++ an ++ " and ".toList ++ bn ++ " differ\n".toList

instance : BEq Change where
  beq a b := a.first = b.first && a.removed = b.removed && a.second = b.second && a.added = b.added

structure DiffRun where
  style : DiffStyle
  flags : DiffFlags
  labels : List Text
  deep : Bool
  newFiles : Bool
  same : Bool
  front : Text

/-- Compares two files. -/
def diffFiles (d : DiffRun) (titled : Bool) (a b : Text) : Act Unit := do
  let load := fun (n : Text) => (do
    match ← readFile n with
    | .ok t => return some t
    | .error (.files .noEntry) =>
      if d.newFiles then return some []
      flush
      grumble (n ++ ": ".toList ++ FileTree.Cause.noEntry.text) 2
      return none
    | .error e =>
      flush
      grumble (n ++ ": ".toList ++ e.text) 2
      return none : Act (Option Text))
  let s ← load a
  let t ← load b
  match s, t with
  | some s, some t =>
    let unchanged := fun (s : Text) =>
      match d.style with
      | .beside width true =>
        let rows := (partsOf '\n' s).toArray
        besideRows width true rows rows 0 0 []
      | _ => []
    if s = t then
      emit (unchanged s)
      if d.same then emitLine ("Files ".toList ++ a ++ " and ".toList ++ b ++ " are identical".toList)
    else
      let isBinary := s.contains (Char.ofNat 0) || t.contains (Char.ofNat 0)
      match if isBinary then some ("Binary files ".toList ++ a ++ " and ".toList ++ b ++ " differ\n".toList)
        else diffTexts d.style d.flags d.labels a b s t with
      | none =>
        emit (unchanged s)
        if d.same then emitLine ("Files ".toList ++ a ++ " and ".toList ++ b ++ " are identical".toList)
      | some out =>
        let brief := match d.style with
          | .brief => true
          | _ => isBinary
        if titled && !brief then emitLine ("diff ".toList ++ d.front ++ a ++ ' ' :: b)
        emit out
        if (← get).status = 0 then setStatus (if isBinary then 2 else 1)
        if isBinary then setStatus 2
  | _, _ => return

/-- Compares what two directories hold. -/
def diffDirs (d : DiffRun) : Nat → Text → Text → Act Unit
  | 0, _, _ => return
  | n + 1, a, b => do
    let t ← look
    let namesIn := fun (p : Text) => Pattern.namesIn t p
    let all := ((namesIn a ++ namesIn b).eraseDups).mergeSort fun x y => compareTexts x y ≠ .gt
    for name in all do
      let p := dirFile a name
      let q := dirFile b name
      let x := Pattern.nodeAt? t true p
      let y := Pattern.nodeAt? t true q
      let only := fun (dir : Text) => (do
        emitLine ("Only in ".toList ++ dir ++ ": ".toList ++ name)
        if (← get).status = 0 then setStatus 1 : Act Unit)
      match x, y with
      | some x, some y =>
        if x.isDir && y.isDir then
          if d.deep then diffDirs d n p q
          else emitLine ("Common subdirectories: ".toList ++ p ++ " and ".toList ++ q)
        else if x.isDir || y.isDir then
          let sort := fun (n : Node) => (if n.isDir then "directory" else "regular file").toList
          emitLine ("File ".toList ++ p ++ " is a ".toList ++ sort x ++ " while file ".toList ++ q ++
            " is a ".toList ++ sort y)
          if (← get).status = 0 then setStatus 1
        else diffFiles d true p q
      | some x, none =>
        if d.newFiles && !x.isDir then diffFiles d true p q
        else if d.newFiles && d.deep then diffDirs d n p q
        else only a
      | none, some y =>
        if d.newFiles && !y.isDir then diffFiles d true p q
        else if d.newFiles && d.deep then diffDirs d n p q
        else only b
      | none, none => pure ()
where
  dirFile (dir name : Text) : Text := if Text.endsWith dir ['/'] then dir ++ name else dir ++ '/' :: name

def diff : Program := fun args => do
  let given := args
  let (os, names) ← parseTwice [⟨'u', "", false, false⟩, ⟨'U', "", true, false⟩,
    ⟨'4', "unified", true, true⟩, ⟨'c', "", false, false⟩, ⟨'C', "", true, false⟩,
    ⟨'5', "context", true, true⟩, ⟨'e', "ed", false, false⟩, ⟨'n', "rcs", false, false⟩,
    ⟨'y', "side-by-side", false, false⟩, ⟨'W', "width", true, false⟩,
    ⟨'6', "suppress-common-lines", false, false⟩, ⟨'I', "ignore-matching-lines", true, false⟩,
    ⟨'p', "show-c-function", false, false⟩, ⟨'t', "expand-tabs", false, false⟩, ⟨'q', "brief", false, false⟩,
    ⟨'r', "recursive", false, false⟩, ⟨'N', "new-file", false, false⟩,
    ⟨'i', "ignore-case", false, false⟩, ⟨'w', "ignore-all-space", false, false⟩,
    ⟨'b', "ignore-space-change", false, false⟩, ⟨'B', "ignore-blank-lines", false, false⟩,
    ⟨'s', "report-identical-files", false, false⟩, ⟨'a', "text", false, false⟩,
    ⟨'d', "minimal", false, false⟩, ⟨'L', "label", true, false⟩, ⟨'1', "normal", false, false⟩,
    ⟨'2', "color", true, true⟩, ⟨'Z', "ignore-trailing-space", false, false⟩,
    ⟨'3', "strip-trailing-cr", false, false⟩] args
  let styles := os.filter fun o => "uU4cC5eny".toList.contains o.letter
  let contextOf := fun (t : Text) => if isDigits t then number t else 3
  let style : DiffStyle :=
    if has os 'q' then .brief
    else match styles.getLast? with
      | some o =>
        match o.letter with
        | 'u' | 'U' | '4' => .unified (contextOf o.text)
        | 'e' => .script
        | 'n' => .counted
        | 'y' => .beside ((valueOf os 'W').map number |>.getD 130) (!has os '6')
        | _ => .contextual (contextOf o.text)
      | none => if has os 'p' then .contextual 3 else .normal
  let ignored ← match valueOf os 'I' with
    | none => pure none
    | some t =>
      match Pattern.Regex.ofText false t with
      | .ok r => pure (some r)
      | .error e => die (t ++ ": ".toList ++ e.message) 2
  let options := given.filter fun a => a.head? = some '-' && a ≠ ['-']
  let d : DiffRun := {
    style := style
    flags := { blanks := has os 'b' || has os 'Z', allBlanks := has os 'w', fold := has os 'i'
               emptyLines := has os 'B', ignored := ignored, titled := has os 'p' }
    labels := (os.filter (·.letter = 'L')).map (·.text)
    deep := has os 'r', newFiles := has os 'N', same := has os 's'
    front := options.flatMap fun o => o ++ [' '] }
  match names with
  | [] => misuseTwice ("missing operand after '".toList ++ (args.getLast?.getD (← get).self) ++ ['\''])
  | [a] => misuseTwice ("missing operand after '".toList ++ a ++ ['\''])
  | [a, b] =>
    let t ← look
    let isDir := fun (n : Text) => (Pattern.nodeAt? t true n).any Node.isDir
    match isDir a, isDir b with
    | true, true => diffDirs d 1000 a b
    | true, false => diffFiles d false (a ++ '/' :: lastName b) b
    | false, true => diffFiles d false a (b ++ '/' :: lastName a)
    | false, false => diffFiles d false a b
  | _ :: _ :: x :: _ => misuseTwice ("extra operand '".toList ++ x ++ ['\''])

end TestWeaver.Utility
