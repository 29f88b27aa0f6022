import TestWeaver.Pattern.Names
import TestWeaver.Shell.State
import TestWeaver.Utility.Printf
import TestWeaver.Utility.System

/-!
What words stand for.

A word becomes bits: characters that remember whether they were quoted and whether they may be
cut at, and marks between fields. Bits become fields, and fields the names of files.
-/

namespace TestWeaver.Shell

open Pattern (Glyph)

inductive Bit where
  | glyph (c : Char) (quoted split : Bool)
  /-- Makes a field even if nothing else does. -/
  | mark
  /-- A border between two fields. -/
  | border
deriving DecidableEq, Repr

namespace Bit

def quotedText (t : Text) : List Bit := t.map fun c => glyph c true false

/-- A value in a word, quoted or not. -/
def value (quoted : Bool) (t : Text) : List Bit := t.map fun c => glyph c quoted !quoted

def text (bs : List Bit) : Text :=
  bs.filterMap fun
    | glyph c _ _ => some c
    | _ => none

def glyphs (bs : List Bit) : List Glyph :=
  bs.filterMap fun
    | glyph c q _ => some ⟨c, q⟩
    | _ => none

end Bit

/-! ### fields -/

/-- A field that is being put together, and whether a separator that was no blank may still be
part of what ended the field before. -/
structure Cutting where
  field : Option (List Glyph) := none
  loose : Bool := false
  /-- The last field first. -/
  done : List (List Glyph) := []

def Cutting.close (c : Cutting) (loose : Bool) : Cutting :=
  match c.field with
  | some f => { field := none, loose := loose, done := f.reverse :: c.done }
  | none => c

def isSplitBlank (separators : Text) (c : Char) : Bool :=
  (c = ' ' || c = '\t' || c = '\n') && separators.contains c

def Cutting.step (separators : Text) (c : Cutting) : Bit → Cutting
  | .mark => { c with field := some (c.field.getD []), loose := false }
  | .border => { c.close false with loose := false }
  | .glyph d quoted split =>
    if split && isSplitBlank separators d then c.close true
    else if split && separators.contains d then
      if c.field.isNone && c.loose then { c with loose := false }
      else { field := none, loose := false, done := (c.field.getD []).reverse :: c.done }
    else { c with field := some (⟨d, quoted⟩ :: c.field.getD []), loose := false }

/-- The fields of a word. -/
def fields (separators : Text) (bs : List Bit) : List (List Glyph) :=
  ((bs.foldl (Cutting.step separators) {}).close false).done.reverse

def isExtended (s : State) : Bool := s.hasSetting "extglob"

def isPattern (s : State) (f : List Glyph) : Bool := Pattern.Glob.isPattern f (isExtended s)

/-- How texts are compared with patterns. -/
def globStyle (s : State) : Pattern.Glob.Style :=
  { wide := s.bash, extended := isExtended s, caseless := s.hasSetting "nocasematch" }

def nameSearch (s : State) : Pattern.Search :=
  { wide := s.bash, extended := isExtended s, caseless := s.hasSetting "nocaseglob", dots := !s.bash
    hidden := s.hasSetting "dotglob", deep := s.hasSetting "globstar" }

/-- The names of files that a field stands for, or its own text. -/
def fileNames (s : State) (t : FileTree) (f : List Glyph) : List Text :=
  let plain := [f.map (·.char)]
  if s.options.noFiles then plain
  else
    match Pattern.paths (nameSearch s) t f with
    | [] => if s.hasSetting "nullglob" && isPattern s f then [] else plain
    | ps => ps

/-! ### tildes -/

/-- The home directory that a tilde with a name behind it stands for. -/
def homeOf (s : State) (user : Text) : Option Text :=
  match user with
  | [] => s.lookup? "HOME".toList
  | ['+'] => if s.bash then s.lookup? "PWD".toList else none
  | ['-'] => if s.bash then s.lookup? "OLDPWD".toList else none
  | _ => if user = "root".toList then some "/root".toList else none

/-- A text in front of which a tilde is replaced. What follows the text is said by `open`. -/
def tildeFront (s : State) (ends : Bool) (assigned : Bool) (t : Text) : List Part :=
  match t with
  | '~' :: r =>
    let user := r.takeWhile fun c => c ≠ '/' && !(assigned && c = ':')
    let rest := r.drop user.length
    if rest = [] && !ends then [.plain t]
    else
      match homeOf s user with
      | some h => [.exact h, .plain rest]
      | none => [.plain t]
  | _ => [.plain t]

/-- A text in which tildes are replaced at its start, if that is the start of the word, and in
an assignment behind each colon. -/
def tildeText (s : State) (isStart ends assigned : Bool) (t : Text) : List Part :=
  if assigned then
    let ps := Text.splitAt ':' t
    let n := ps.length
    (ps.zipIdx.flatMap fun (p, i) =>
      let here := (i ≠ 0 || isStart)
      let ends := i + 1 < n || ends
      (if i = 0 then [] else [.plain [':']]) ++
        if here then tildeFront s ends assigned p else [.plain p])
  else if isStart then tildeFront s ends assigned t
  else [.plain t]

def tildes (s : State) (assigned : Bool) : Bool → List Part → List Part
  | _, [] => []
  | isStart, .plain t :: ps => tildeText s isStart ps.isEmpty assigned t ++ tildes s assigned false ps
  | _, p :: ps => p :: tildes s assigned false ps

/-! ### braces -/

/-- A character of a word that is not quoted, or another part of it. -/
inductive Atom where
  | char (c : Char)
  | part (p : Part)

def atomsOf : Word → List Atom
  | [] => []
  | .plain t :: ps => t.map .char ++ atomsOf ps
  | p :: ps => .part p :: atomsOf ps

def ofAtoms : List Atom → Word
  | [] => []
  | .part p :: as => p :: ofAtoms as
  | .char c :: as =>
    match ofAtoms as with
    | .plain t :: ps => .plain (c :: t) :: ps
    | ps => .plain [c] :: ps

/-- The pieces between commas up to the brace that closes one. -/
def bracePieces : Nat → List Atom → List Atom → Option (List (List Atom) × List Atom)
  | _, _, [] => none
  | depth, acc, .char '\x7d' :: r =>
    match depth with
    | 0 => some ([acc.reverse], r)
    | d + 1 => bracePieces d (.char '\x7d' :: acc) r
  | 0, acc, .char ',' :: r => (bracePieces 0 [] r).map fun (ps, rest) => (acc.reverse :: ps, rest)
  | depth, acc, .char '\x7b' :: r => bracePieces (depth + 1) (.char '\x7b' :: acc) r
  | depth, acc, a :: r => bracePieces depth (a :: acc) r

def textOfAtoms : List Atom → Option Text
  | [] => some []
  | .char c :: r => (textOfAtoms r).map (c :: ·)
  | .part _ :: _ => none

def wholeNumber? (t : Text) : Option Int :=
  let (negative, ds) :=
    match t with
    | '-' :: r => (true, r)
    | '+' :: r => (false, r)
    | r => (false, r)
  if ds ≠ [] && ds.all Char.isDigit then
    let n : Int := Arithmetic.valueIn 10 ds
    some (if negative then -n else n)
  else none

/-- The numbers from one to another in steps. -/
def numbersTo (a b step : Int) : List Int :=
  let step := if step = 0 then 1 else if step < 0 then -step else step
  let count := ((if a ≤ b then b - a else a - b) / step).toNat + 1
  (List.range count).map fun (i : Nat) => if a ≤ b then a + step * i else a - step * i

/-- A number with zeros in front up to a width. -/
def padded (width : Nat) (n : Int) : Text :=
  let ds := Raw.ofNat n.natAbs
  let sign : Text := if n < 0 then ['-'] else []
  sign ++ List.replicate (width - sign.length - ds.length) '0' ++ ds

/-- What a range such as `1..5` stands for. -/
def braceRange? (t : Text) : Option (List Text) :=
  let dots : Text := ['.', '.']
  (Text.cut? dots t).bind fun (a, r) =>
    let (b, step) : Text × Option Int :=
      match Text.cut? dots r with
      | some (b, s) => (b, wholeNumber? s)
      | none => (r, some 1)
    step.bind fun step =>
      match wholeNumber? a, wholeNumber? b with
      | some x, some y =>
        let zeros := fun (u : Text) => (u.dropWhile (· = '-')).head? = some '0' && 1 < u.length
        let width := if zeros a || zeros b then max a.length b.length else 0
        some ((numbersTo x y step).map (padded width))
      | _, _ =>
        match a, b with
        | [x], [y] =>
          if x.isAlpha && y.isAlpha then
            some ((numbersTo x.toNat y.toNat step).map fun n => [Char.ofNat n.toNat])
          else none
        | _, _ => none

def bracesFrom : Nat → List Atom → List (List Atom)
  | 0, as => [as]
  | _ + 1, [] => [[]]
  | n + 1, .char '\x7b' :: r =>
    let literal := (bracesFrom n r).map (.char '\x7b' :: ·)
    match bracePieces 0 [] r with
    | none => literal
    | some ([p], rest) =>
      match (textOfAtoms p).bind braceRange? with
      | some ts =>
        let ends := bracesFrom n rest
        ts.flatMap fun t => ends.map fun e => t.map .char ++ e
      | none => literal
    | some (ps, rest) =>
      let ends := bracesFrom n rest
      (ps.flatMap (bracesFrom n)).flatMap fun p => ends.map fun e => p ++ e
  | n + 1, .part p :: r => (bracesFrom n r).map (.part p :: ·)
  | n + 1, .char c :: r => (bracesFrom n r).map (.char c :: ·)

/-- The words that a word with braces stands for. -/
def braceWords (w : Word) : List Word :=
  let as := atomsOf w
  let isOpen := as.any fun
    | .char c => c = '\x7b'
    | _ => false
  if isOpen then (bracesFrom (as.length + 1) as).map ofAtoms else [w]

/-! ### bits of words -/

/-- The time in microseconds. -/
def clock : Sh Nat := Sh.call .clock

/-- How the output of commands comes about, and how a name for it does. -/
structure Expander where
  output : List Command → Sh Text
  channel : Bool → List Command → Sh Text

/-- Expands words without commands in them. -/
def Expander.idle : Expander := ⟨fun _ => pure [], fun _ _ => pure []⟩

/-- How long a text is: in octets, or in characters. -/
def lengthOf (s : State) (t : Text) : Nat :=
  if s.bash then t.countP fun c => !(0x80 ≤ c.toNat && c.toNat < 0xC0) else t.length

def isSet : Content → Bool → Bool
  | .one none, _ => false
  | .one (some t), void => !(void && t = [])
  | .many ts _, void => !ts.isEmpty && !(void && ts.all (· = []))

/-- The characters of a raw text, each as its octets. -/
def charsOf : Text → List Text
  | [] => []
  | c :: s =>
    match charsOf s with
    | [] => [[c]]
    | d :: ds =>
      if (d.head?.map Char.toNat).any fun n => 0x80 ≤ n && n < 0xC0 then (c :: d) :: ds
      else [c] :: d :: ds

def upper (t : Text) : Text := t.map Char.toUpper

def lower (t : Text) : Text := t.map Char.toLower

/-- What a covered text is replaced by: nothing in it means that text again. -/
abbrev Replacement := List (Option Char)

def Replacement.text (r : Replacement) (covered : Text) : Text :=
  r.flatMap fun
    | some c => [c]
    | none => covered

/-- Replaces what a pattern covers, the longest first. -/
def replaceFrom (st : Pattern.Glob.Style) (is : List Pattern.Glob.Item) (all : Bool)
    (new : Replacement) : Nat → Text → Text
  | 0, s => s
  | n + 1, s =>
    match (Pattern.Glob.lengths st false is s).getLast? with
    | some (k + 1) =>
      let rest := s.drop (k + 1)
      new.text (s.take (k + 1)) ++ if all then replaceFrom st is all new n rest else rest
    | _ =>
      match s with
      | [] => []
      | c :: r => c :: replaceFrom st is all new n r

def replace (st : Pattern.Glob.Style) (anchor : Char) (is : List Pattern.Glob.Item) (all : Bool)
    (new : Replacement) (s : Text) : Text :=
  if anchor = '#' then
    match (Pattern.Glob.lengths st false is s).getLast? with
    | some k => new.text (s.take k) ++ s.drop k
    | none => s
  else if anchor = '%' then
    match (Pattern.Glob.lengths st true is s).getLast? with
    | some k => s.take (s.length - k) ++ new.text (s.drop (s.length - k))
    | none => s
  else replaceFrom st is all new (s.length + 1) s

/-- Changes the case of the characters that a pattern covers, or only of the first. -/
def recase (st : Pattern.Glob.Style) (up all : Bool) (is : List Pattern.Glob.Item) : Text → Text
  | [] => []
  | c :: s =>
    let d := if is.isEmpty || Pattern.Glob.covers st is [c] then (if up then c.toUpper else c.toLower)
      else c
    d :: if all then recase st up all is s else s

/-- A text as bash shows it, in quotes. -/
def bashQuoted (t : Text) : Text :=
  if t.any Utility.isControl then Utility.ansiQuotedText t
  else '\'' :: t.flatMap (fun c => if c = '\'' then "'\\''".toList else [c]) ++ ['\'']

/-- A value shown in one of the ways that have letters. -/
def shownIn (way : Char) (t : Text) : Option Text :=
  match way with
  | 'Q' | 'K' | 'k' => some (bashQuoted t)
  | 'U' => some (upper t)
  | 'L' => some (lower t)
  | 'u' => some ((t.take 1).map Char.toUpper ++ t.drop 1)
  | 'E' | 'P' => some t
  | _ => none

/-- The letters for what a variable is marked as. -/
def attributeLetters (v : Variable) : Text :=
  let on := fun (b : Bool) (c : Char) => if b then [c] else []
  let kind : Text :=
    match v.value with
    | some (.items _) => ['a']
    | some (.table _) => ['A']
    | _ => []
  kind ++ on v.whole 'i' ++ on (v.letters = some false) 'l' ++ on v.link 'n' ++ on v.fixed 'r' ++
    on (v.letters = some true) 'u' ++ on v.exported 'x'

def attributesOf (s : State) (name : Text) : Text :=
  ((s.var? name).map attributeLetters).getD []

/-- The assignment that would give a variable its value. -/
def assignmentOf (s : State) (name t : Text) : Text :=
  let letters := attributesOf s name
  (if letters = [] then [] else "declare -".toList ++ letters ++ [' ']) ++ name ++ '=' :: bashQuoted t

def mapContent (f : Text → Text) : Content → Content
  | .one t => .one (t.map f)
  | .many ts j => .many (ts.map f) j

/-- The items from a place on, so many of them; a negative count leaves so many out at the end. -/
def sliceList {α : Type} (xs : List α) (start : Int) (count : Option Int) : List α :=
  let n : Int := xs.length
  let first := if start < 0 then n + start else start
  if first < 0 || n < first then []
  else
    let rest := xs.drop first.toNat
    match count with
    | none => rest
    | some c => if c < 0 then rest.take (n + c - first).toNat else rest.take c.toNat

/-- The separator between parameters that are joined. -/
def joiner (s : State) : Text :=
  match s.lookup? State.ifs with
  | none => [' ']
  | some t => t.take 1

def between (sep : List Bit) : List (List Bit) → List Bit
  | [] => []
  | [b] => b
  | b :: bs => b ++ sep ++ between sep bs

/-- The bits of what a parameter stands for. `full` says that fields are made of them. -/
def contentBits (s : State) (full quoted : Bool) : Content → List Bit
  | .one t => Bit.value quoted (t.getD [])
  | .many ts joined =>
    if full && !(quoted && joined) then
      between [.border] (ts.map fun t => if quoted then .mark :: Bit.value true t else Bit.value false t)
    else
      let sep := if joined || !s.bash then joiner s else [' ']
      between (Bit.value quoted sep) (ts.map (Bit.value quoted))

mutual

/-- The bits of the parts of a word. `inner` says that they stand in braces, where what is not
quoted may be cut into fields. -/
def bitsFrom (e : Expander) (full inner : Bool) : Nat → List Part → Sh (List Bit)
  | 0, _ => return []
  | _ + 1, [] => return []
  | n + 1, p :: ps => do
    let a ← bitsOf e full inner n p
    let b ← bitsFrom e full inner n ps
    return a ++ b

def bitsOf (e : Expander) (full inner : Bool) : Nat → Part → Sh (List Bit)
  | 0, _ => return []
  | n + 1, p => do
    match p with
    | .plain t => return t.map fun c => .glyph c false inner
    | .exact t => return if t = [] then [.mark] else Bit.quotedText t
    | .output cs q => return Bit.value q (← e.output cs)
    | .channel toRead cs => return Bit.quotedText (← e.channel toRead cs)
    | .list _ => return []
    | .sum w q => return Bit.value q (Raw.ofInt (← sum e n w))
    | .parameter name change q => parameter e full n name change q

/-- The text of parts that are not cut. -/
def textFrom (e : Expander) : Nat → List Part → Sh Text
  | 0, _ => return []
  | n + 1, ps => return Bit.text (← bitsFrom e false false n ps)

def patternFrom (e : Expander) : Nat → List Part → Sh (List Pattern.Glob.Item)
  | 0, _ => return []
  | n + 1, ps => do
    let s ← get
    return Pattern.Glob.items (Bit.glyphs (← bitsFrom e false false n (tildes s false true ps)))
      (isExtended s)

def sum (e : Expander) : Nat → List Part → Sh Int
  | 0, _ => return 0
  | n + 1, w => do
    let t ← textFrom e n w
    let s ← get
    let t := if s.bash then t.filter (· ≠ '"') else t
    let value := fun ((x, i) : Arithmetic.Place) =>
      match i with
      | none =>
        match content s x with
        | .one t => t
        | .many ts _ => ts.head?
      | some i =>
        match (s.var? x).bind (·.value) with
        | some (.items xs) => State.item? xs i
        | some (.text t) => if i = 0 then some t else none
        | _ => none
    match Arithmetic.eval { bash := s.bash, value := value, strict := s.bash && s.options.defined } t with
    | .error f => fail (f.message t)
    | .ok (v, sets) =>
      for ((x, i), v) in sets do
        match i with
        | none => assign x (Raw.ofInt v)
        | some i => assignItem x i (Raw.ofInt v)
      return v

/-- The number of an item of an array, or its key. -/
def subscriptOf (e : Expander) : Nat → Text → Text → Sh (Int ⊕ Text)
  | 0, _, i => return .inr i
  | n + 1, name, i => do
    let s ← get
    let word : List Part := (wordOf? true i).getD [.exact i]
    match (s.var? name).bind (·.value) with
    | some (.table _) => return .inr (← textFrom e n word)
    | _ => return .inl (← sum e n word)

/-- What a name with or without a subscript stands for. -/
def contentOf (e : Expander) : Nat → Text → Sh Content
  | 0, _ => return .one none
  | n + 1, name => do
    let s ← get
    match splitSubscript name with
    | (_, none) =>
      match content s name with
      | .many ts j => if name = ['@'] || name = ['*'] then return .many ts j else return .one ts.head?
      | c =>
        if name = "SECONDS".toList && s.bash then
          return .one (some (Raw.ofNat (((← clock) - s.startTime) / 1000000)))
        if name = "EPOCHSECONDS".toList && s.bash then
          return .one (some (Raw.ofNat (Utility.epoch + (← clock) / 1000000)))
        if name = "RANDOM".toList && s.bash then
          modify fun s => { s with random := s.random * 16807 % 2147483647 }
        return c
    | (base, some i) =>
      if i = ['@'] then return .many (itemsOf s base) false
      else if i = ['*'] then return .many (itemsOf s base) true
      else
        match ← subscriptOf e n base i with
        | .inr key =>
          match (s.var? base).bind (·.value) with
          | some (.table xs) => return .one (xs.lookup key)
          | _ => return .one none
        | .inl k =>
          match (s.var? base).bind (·.value) with
          | some (.items xs) => return .one (State.item? xs k)
          | _ =>
            let ts := itemsOf s base
            return .one (if 0 ≤ k then ts[k.toNat]? else ts[(ts.length + k).toNat]?)

def assignTo (e : Expander) : Nat → Text → Text → Sh Unit
  | 0, _, _ => return
  | n + 1, name, t => do
    match splitSubscript name with
    | (_, none) => assign name t
    | (base, some i) =>
      match ← subscriptOf e n base i with
      | .inl k => assignItem base k t
      | .inr key =>
        match ((← get).var? base).bind (·.value) with
        | some (.table xs) => setValue base (.table (State.setEntry key t xs))
        | _ => setValue base (.table [(key, t)])

def parameter (e : Expander) (full : Bool) : Nat → Text → Change → Bool → Sh (List Bit)
  | 0, _, _, _ => return []
  | n + 1, name, change, q => do
    let c ← contentOf e n name
    let s ← get
    let unsetFault : Sh (List Bit) := do
      if s.bash then fail (name ++ ": unbound variable".toList) (if s.options.command then 127 else 1)
      else fail (name ++ ": parameter not set".toList)
    let missing := s.options.defined && !isSet c false && !(name = ['@'] || name = ['*'] ||
      (Text.endsWith name "[@]".toList) || (Text.endsWith name "[*]".toList))
    let word := fun (w : List Part) =>
      if q then bitsFrom e full false n w else bitsFrom e full true n (tildes s false true w)
    match change with
    | .bad source =>
      fail (if s.bash then source ++ ": bad substitution".toList else "Bad substitution".toList)
    | .none => if missing then unsetFault else return contentBits s full q c
    | .size =>
      if missing then unsetFault
      else
        let k : Nat :=
          match c with
          | .one t => lengthOf s (t.getD [])
          | .many ts _ => ts.length
        return Bit.value q (Raw.ofNat k)
    | .usual void w => if isSet c void then return contentBits s full q c else word w
    | .instead void w => if isSet c void then word w else return []
    | .assigned void w =>
      if isSet c void then return contentBits s full q c
      else
        let t ← textFrom e n (if q then w else tildes s false true w)
        if (special? s name).isSome then
          fail (if s.bash then '$' :: name ++ ": cannot assign in this way".toList
            else name ++ ": bad variable name".toList)
        assignTo e n name t
        return Bit.value q t
    | .demanded void w =>
      if isSet c void then return contentBits s full q c
      else
        let t ← textFrom e n w
        let why : Text :=
          if !w.isEmpty then t
          else if s.bash then
            (if void then "parameter null or not set" else "parameter not set").toList
          else (if void then "parameter not set or null" else "parameter not set").toList
        if s.bash then
          complain (name ++ ": ".toList ++ why)
          setStatus 127
          throw .failed
        else fail (name ++ ": ".toList ++ why)
    | .trimmed atEnd longest p =>
      if missing then unsetFault
      else
        let is ← patternFrom e n p
        let f := Pattern.Glob.trim { globStyle s with caseless := false } atEnd longest is
        return contentBits s full q (mapContent f c)
    | .replaced all anchor p w =>
      if missing then unsetFault
      else
        let is ← patternFrom e n p
        let new : Replacement := (← bitsFrom e false false n (tildes s false true w)).filterMap fun
          | .glyph d quoted _ => some (if d = '&' && !quoted then none else some d)
          | _ => none
        return contentBits s full q (mapContent (replace (globStyle s) anchor is all new) c)
    | .cased up all p =>
      let is ← patternFrom e n p
      return contentBits s full q (mapContent (recase (globStyle s) up all is) c)
    | .names joined =>
      let names := (s.vars.map (·.1)).filter fun v => Text.startsWith v name
      return contentBits s full q (.many (names.mergeSort fun a b => !(b < a)) joined)
    | .shown way =>
      if missing then unsetFault
      else
        let unquoted := match c with
          | .one t => t.isNone
          | .many .. => false
        if unquoted then return []
        else if way = 'a' then return Bit.value q (attributesOf s (splitSubscript name).1)
        else if way = 'A' then
          match c with
          | .one t => return Bit.value q (assignmentOf s name (t.getD []))
          | .many .. => return []
        else
          match shownIn way [] with
          | none => fail ("$\x7b".toList ++ name ++ ['@', way] ++ "\x7d: bad substitution".toList)
          | some _ => return contentBits s full q (mapContent (fun t => (shownIn way t).getD t) c)
    | .slice a b counted =>
      let start ← sum e n a
      let count ← if counted then do pure (some (← sum e n b)) else pure none
      match c with
      | .one t => return Bit.value q (sliceList (charsOf (t.getD [])) start count).flatten
      | .many ts j =>
        let ts := if name = ['@'] || name = ['*'] then
            (if start = 0 then sliceList (s.name :: ts) 0 count
              else if start < 0 then sliceList ts start count
              else sliceList (s.name :: ts) start count)
          else sliceList ts start count
        return contentBits s full q (.many ts j)
    | .indirect =>
      let (base, i) := splitSubscript name
      if i = some ['@'] || i = some ['*'] then
        return contentBits s full q (.many (keysOf s base) (i = some ['*']))
      else
        match c with
        | .one (some t) => return contentBits s full q (← contentOf e n t)
        | _ => return []

end

/-- How deep words may be nested. -/
def wordFuel : Nat := 100000

/-- The text of a word that is not cut into fields. -/
def textOf (e : Expander) (w : Word) : Sh Text := do
  textFrom e wordFuel (tildes (← get) false true w)

/-- The text of a word that is assigned. -/
def assignedText (e : Expander) (w : Word) : Sh Text := do
  textFrom e wordFuel (tildes (← get) true true w)

/-- The text of a word in which tildes stay. -/
def rawTextOf (e : Expander) (w : Word) : Sh Text := textFrom e wordFuel w

def patternOf (e : Expander) (w : Word) : Sh (List Pattern.Glob.Item) := patternFrom e wordFuel w

def wordSum (e : Expander) (w : Word) : Sh Int := sum e wordFuel w

/-- The fields of a word. -/
def fieldsOf (e : Expander) (w : Word) : Sh (List Text) := do
  let bs ← bitsFrom e true false wordFuel (tildes (← get) false true w)
  let s ← get
  let fs := fields s.separators bs
  if fs.any (isPattern s) && !s.options.noFiles then
    let t ← Sh.call .look
    if s.hasSetting "failglob" then
      for f in fs do
        if isPattern s f && (Pattern.paths (nameSearch s) t f).isEmpty then
          fail ("no match: ".toList ++ f.map (·.char))
    return fs.flatMap (fileNames s t)
  else return fs.map fun f => f.map (·.char)

/-- The fields of several words. -/
def allFields (e : Expander) : List Word → Sh (List Text)
  | [] => return []
  | w :: ws => do
    let a ← if (← get).hasSetting "braceexpand" then do
        let parts ← (braceWords w).mapM (fieldsOf e)
        pure parts.flatten
      else fieldsOf e w
    return a ++ (← allFields e ws)

end TestWeaver.Shell
