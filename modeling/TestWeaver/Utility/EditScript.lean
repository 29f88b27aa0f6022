import TestWeaver.Utility.Words

/-!
Scripts that edit a stream of lines: commands with the lines that they are for.
-/

namespace TestWeaver.Utility.Edit

open Pattern (Regex)

/-- An expression and how letters are taken. -/
structure Matcher where
  regex : Regex
  mode : Pattern.Regex.Mode := {}

inductive Address where
  | line (n : Nat)
  | step (first every : Nat)
  | last
  /-- An empty expression is the one that was used last. -/
  | regex (r : Option Matcher)

/-- How far a range goes. -/
inductive Until where
  | address (a : Address)
  | more (n : Nat)
  | multiple (n : Nat)

inductive CaseChange where
  | upper
  | lower
  | upperNext
  | lowerNext
  | none
deriving DecidableEq, Repr

inductive Part where
  | text (t : Text)
  | group (n : Nat)
  | case (c : CaseChange)

structure Substitution where
  regex : Option Matcher
  parts : List Part
  all : Bool := false
  number : Nat := 0
  print : Bool := false
  file : Option Text := none

inductive Action where
  /-- What stands in braces goes up to the command of this number. -/
  | block (last : Nat)
  | closing
  | text (letter : Char) (t : Text)
  | jump (letter : Char) (label : Text)
  | label
  | number (letter : Char) (n : Option Nat)
  | plain (letter : Char)
  | file (letter : Char) (name : Text)
  | substitute (s : Substitution)
  | map (pairs : List (Text × Text))

structure Command where
  first : Option Address := none
  last : Option Until := none
  negated : Bool := false
  action : Action

/-- A script as far as it was read, with the last part of it first. -/
structure Script where
  commands : Array Command := #[]
  labels : List (Text × Nat) := []
  /-- The blocks that are not closed, and the part of the script that each began in. -/
  blocks : List (Nat × Nat) := []
  quiet : Bool := false

/-- A part of a script that is being read. -/
structure Reader where
  file : Option Text := none
  /-- Which expression of the command line this is. -/
  number : Nat := 1
  rest : Text
  used : Nat := 0
  line : Nat := 1
  more : List Text := []
  extended : Bool := false
  isFirst : Bool := true

abbrev Reads := StateT Reader (Except Text)

def fault {α : Type} (m : String) (used : Option Nat := none) : Reads α := do
  let r ← get
  let front : Text := match r.file with
    | some f => "file ".toList ++ f ++ " line ".toList ++ Raw.ofNat r.line ++ ": ".toList
    | none => "-e expression #".toList ++ Raw.ofNat r.number ++ ", char ".toList ++
      Raw.ofNat (used.getD r.used) ++ ": ".toList
  throw (front ++ m.toList)

/-- The next character. -/
def next : Reads (Option Char) := modifyGet fun r =>
  match r.rest with
  | [] => (none, r)
  | c :: cs => (some c, { r with
    rest := cs, used := r.used + 1, line := if c = '\n' then r.line + 1 else r.line })

def peek : Reads (Option Char) := return (← get).rest.head?

def takeWhile (f : Char → Bool) : Reads Text := modifyGet fun r =>
  let t := r.rest.takeWhile f
  (t, { r with
    rest := r.rest.drop t.length, used := r.used + t.length, line := r.line + t.count '\n' })

def isBlank (c : Char) : Bool := c = ' ' || c = '\t'

def isSpace (c : Char) : Bool := Decimal.Real.isBlank c

def skipBlanks : Reads Unit := do
  let _ ← takeWhile isGap
where
  isGap (c : Char) : Bool := c = ' ' || c = '\t' || c = '\r' || c = '\x0b' || c = '\x0c'

def nextFilled : Reads (Option Char) := do
  skipBlanks
  next

def readNumber : Reads Nat := return Utility.number (← takeWhile Char.isDigit)

/-! ### expressions -/

/-- A character that a backslash makes out of digits or letters. -/
def special (t : Text) : Option (Char × Text) :=
  let numbered := fun (base most : Nat) (isDigit : Char → Bool) (r : Text) =>
    let ds := (r.take most).takeWhile isDigit
    if ds = [] then none
    else some (Char.ofNat (Decimal.Real.natIn base ds % 256), r.drop ds.length)
  match t with
  | 'd' :: r => numbered 10 3 Char.isDigit r
  | 'o' :: r => numbered 8 3 isOctalDigit r
  | 'x' :: r => numbered 16 2 Decimal.Real.isHexDigit r
  | 'c' :: c :: r => some (Char.ofNat (Nat.xor c.toUpper.toNat 64), r)
  | 'a' :: r => some ('\x07', r)
  | 'f' :: r => some ('\x0c', r)
  | 't' :: r => some ('\t', r)
  | 'v' :: r => some ('\x0b', r)
  | 'r' :: r => some ('\r', r)
  | _ => none

/-- The text up to a mark. In an expression, brackets protect it. -/
def upToMark (mark : Char) (isRegex : Bool) : Nat → Bool → Bool → Text → Reads (Option Text)
  | 0, _, _, _ => return none
  | n + 1, inSet, isSetStart, acc => do
    match ← next with
    | none => return none
    | some '\n' =>
      if isRegex && !inSet then return none
      else if isRegex then upToMark mark isRegex n inSet false ('\n' :: acc)
      else return none
    | some c =>
      if c = mark && !inSet then return some acc.reverse
      else if c = '\\' then
        match ← next with
        | none => return none
        | some d =>
          if d = mark && !inSet then
            upToMark mark isRegex n inSet false
              (if !isRegex && d = '&' then d :: '\\' :: acc else d :: acc)
          else if d = 'n' && isRegex then upToMark mark isRegex n inSet false ('\n' :: acc)
          else if d = '\n' && isRegex then upToMark mark isRegex n inSet false ('\n' :: acc)
          else if inSet && d = ']' then upToMark mark isRegex n false false (d :: '\\' :: acc)
          else upToMark mark isRegex n inSet false (d :: '\\' :: acc)
      else if isRegex && c = '[' && !inSet then upToMark mark isRegex n true true (c :: acc)
      else if inSet && c = '[' && ((← peek) = some ':' || (← peek) = some '.' || (← peek) = some '=') then
        let kind := (← next).getD ':'
        let name ← takeWhile fun d => d ≠ kind && d ≠ '\n' && d ≠ mark
        upToMark mark isRegex n true false (name.reverse ++ kind :: '[' :: acc)
      else if inSet && c = '^' && isSetStart && acc.head? = some '[' then
        upToMark mark isRegex n true true (c :: acc)
      else if inSet && c = ']' && !isSetStart && !(acc.head?.any fun d => d = ':' || d = '.' || d = '=') then
        upToMark mark isRegex n false false (c :: acc)
      else if inSet && c = ']' && !isSetStart then
        upToMark mark isRegex n (isNamed acc) false (c :: acc)
      else upToMark mark isRegex n inSet false (c :: acc)
where
  /-- Whether a bracket closes only a named class. -/
  isNamed (acc : Text) : Bool :=
    match acc with
    | k :: r =>
      match r.dropWhile Char.isAlpha with
      | k' :: '[' :: _ => k = k'
      | _ => false
    | [] => false

/-- An expression with its backslashes read as far as they mean characters. -/
def plainRegex : Nat → Text → Text
  | 0, t => t
  | n + 1, t =>
    match t with
    | [] => []
    | '\\' :: r =>
      match special r with
      | some (c, rest) =>
        (if "*.[]^$/\\+?()|\x7b\x7d".toList.contains c then ['\\', c] else [c]) ++ plainRegex n rest
      | none =>
        match r with
        | [] => ['\\']
        | c :: rest => '\\' :: c :: plainRegex n rest
    | c :: r => c :: plainRegex n r

def regexFrom (t : Text) (mode : Pattern.Regex.Mode) : Reads (Option Matcher) := do
  if t = [] then return none
  else
    match Regex.ofText (← get).extended (plainRegex (t.length + 1) t) with
    | .ok r => return some ⟨r, mode⟩
    | .error e => fault (String.ofList e.message)

/-! ### addresses -/

/-- The letters behind the expression of an address. -/
def addressFlags : Nat → Pattern.Regex.Mode → Reads Pattern.Regex.Mode
  | 0, m => return m
  | n + 1, m => do
    match ← peek with
    | some 'I' =>
      let _ ← next
      addressFlags n { m with foldCase := true }
    | some 'M' =>
      let _ ← next
      addressFlags n { m with multiline := true }
    | _ => return m

def fuel : Reads Nat := do
  let r ← get
  return r.more.foldl (fun n t => n + 2 * t.length + 2) (2 * r.rest.length + 4)

def readAddress : Reads (Option Address) := do
  skipBlanks
  match ← peek with
  | some '$' =>
    let _ ← next
    return some .last
  | some '/' | some '\\' =>
    let c ← next
    let mark ← if c = some '\\' then (do return (← next).getD '/') else pure '/'
    match ← upToMark mark true (← fuel) false false [] with
    | none => fault "unterminated address regex"
    | some t =>
      let mode ← addressFlags (← fuel) {}
      return some (.regex (← regexFrom t mode))
  | some c =>
    if c.isDigit then
      let n ← readNumber
      skipBlanks
      if (← peek) = some '~' then
        let _ ← next
        skipBlanks
        let m ← readNumber
        return some (if m = 0 then .line n else .step n m)
      else return some (.line n)
    else return none
  | none => return none

def readUntil : Reads (Option Until) := do
  skipBlanks
  match ← peek with
  | some '+' =>
    let _ ← next
    return some (.more (← readNumber))
  | some '~' =>
    let _ ← next
    return some (.multiple (← readNumber))
  | _ => return (← readAddress).map .address

/-! ### commands -/

/-- Nothing may follow a command but its end. -/
def readEnd : Reads Unit := do
  skipBlanks
  match ← peek with
  | some '}' | some '#' | none => return
  | some '\n' | some ';' =>
    let _ ← next
  | some _ =>
    let _ ← next
    fault "extra characters after command"

/-- The text of a line with its backslashes, which continue it at its end. -/
def readLines : Nat → Text → Reads Text
  | 0, acc => return acc
  | n + 1, acc => do
    match ← next with
    | none => return acc ++ ['\n']
    | some '\n' => return acc ++ ['\n']
    | some '\\' =>
      match ← next with
      | none =>
        let r ← get
        match r.more with
        | t :: ts =>
          set { r with rest := t, used := 0, number := r.number + 1, more := ts }
          readLines n (acc ++ ['\n'])
        | [] => return acc ++ ['\n']
      | some c =>
        let r ← get
        match special (c :: r.rest) with
        | some (d, rest) =>
          set { r with rest := rest, used := r.used + (r.rest.length - rest.length) }
          readLines n (acc ++ [d])
        | none => readLines n (acc ++ [if c = 'n' then '\n' else c])
    | some c => readLines n (acc ++ [c])

/-- The text of a command that inserts one. -/
def readText : Reads Text := do
  skipBlanks
  match ← peek with
  | none =>
    fault "expected \\ after \x60a', \x60c' or \x60i'"
  | some '\\' =>
    let _ ← next
    let blanks ← takeWhile isBlank
    match ← peek with
    | some '\n' =>
      let _ ← next
      readLines (← fuel) []
    | none =>
      let r ← get
      match r.more with
      | t :: ts =>
        set { r with rest := t, used := 0, number := r.number + 1, more := ts }
        readLines (← fuel) []
      | [] => fault "expected \\ after \x60a', \x60c' or \x60i'"
    | some _ => readLines (← fuel) blanks
  | some _ => readLines (← fuel) []

def readName : Reads Text := do
  skipBlanks
  let t ← takeWhile (· ≠ '\n')
  if t = [] then fault "missing filename in r/R/w/W commands"
  else
    let _ ← next
    return t

def readLabel (inBlock : Bool) : Reads Text := do
  skipBlanks
  let t ← takeWhile fun c => c ≠ '\n' && c ≠ ';' && !isSpace c && !(inBlock && c = '}')
  return t

/-- The parts of what a match is replaced by. -/
def replacementParts : Nat → Text → Text → List Part
  | 0, _, _ => []
  | _ + 1, acc, [] => if acc = [] then [] else [.text acc.reverse]
  | n + 1, acc, c :: r =>
    let done := fun (p : Part) (rest : Text) =>
      (if acc = [] then [] else [Part.text acc.reverse]) ++ p :: replacementParts n [] rest
    if c = '&' then done (.group 0) r
    else if c = '\\' then
      match r with
      | [] => replacementParts n ('\\' :: acc) []
      | d :: s =>
        match d with
        | 'U' => done (.case .upper) s
        | 'L' => done (.case .lower) s
        | 'u' => done (.case .upperNext) s
        | 'l' => done (.case .lowerNext) s
        | 'E' => done (.case .none) s
        | 'n' => replacementParts n ('\n' :: acc) s
        | _ =>
          if d.isDigit then done (.group (d.toNat - 48)) s
          else
            match special r with
            | some (e, rest) => replacementParts n (e :: acc) rest
            | none => replacementParts n (d :: acc) s
    else replacementParts n (c :: acc) r

structure SubstituteFlags where
  substitution : Substitution
  mode : Pattern.Regex.Mode := {}

def substituteFlags : Nat → SubstituteFlags → Reads SubstituteFlags
  | 0, f => return f
  | n + 1, f => do
    let s := f.substitution
    match ← next with
    | none | some '\n' | some ';' => return f
    | some c =>
      if isSpace c then substituteFlags n f
      else if c = 'i' || c = 'I' then substituteFlags n { f with mode := { f.mode with foldCase := true } }
      else if c = 'm' || c = 'M' then substituteFlags n { f with mode := { f.mode with multiline := true } }
      else if c = 'e' then substituteFlags n f
      else if c = 'p' then
        if s.print then fault "multiple \x60p' options to \x60s' command"
        else substituteFlags n { f with substitution := { s with print := true } }
      else if c = 'g' then
        if s.all then fault "multiple \x60g' options to \x60s' command"
        else substituteFlags n { f with substitution := { s with all := true } }
      else if c = 'w' then
        return { f with substitution := { s with file := some (← readName) } }
      else if c.isDigit then
        if s.number ≠ 0 then fault "multiple number options to \x60s' command"
        else
          let ds ← takeWhile Char.isDigit
          let k := Utility.number (c :: ds)
          if k = 0 then fault "number option to \x60s' command may not be zero"
          else substituteFlags n { f with substitution := { s with number := k } }
      else if c = '}' || c = '#' then
        modify fun r => { r with rest := c :: r.rest, used := r.used - 1 }
        return f
      else fault "unknown option to \x60s'"

def readSubstitution : Reads Substitution := do
  let unended {α : Type} : Reads α := fault "unterminated \x60s' command"
  match ← next with
  | none | some '\n' | some '\\' => unended
  | some mark =>
    let n ← fuel
    let some pattern ← upToMark mark true n false false []
      | unended
    let some replacement ← upToReplacement mark n []
      | unended
    let parts := replacementParts (replacement.length + 1) [] replacement
    let f ← substituteFlags n { substitution := { regex := none, parts := parts } }
    let m ← regexFrom pattern f.mode
    let most := (m.map fun m => m.regex.groupCount).getD 9
    for p in parts do
      if let .group k := p then
        if most < k then fault ("invalid reference \\" ++ toString k ++ " on \x60s' command's RHS")
    return { f.substitution with regex := m }
where
  /-- What stands for a match, up to the mark, with its backslashes. -/
  upToReplacement (mark : Char) : Nat → Text → Reads (Option Text)
    | 0, _ => return none
    | n + 1, acc => do
      match ← next with
      | none => return none
      | some c =>
        if c = mark then return some acc.reverse
        else if c = '\n' then return none
        else if c = '\\' then
          match ← next with
          | none => return none
          | some d =>
            if d = '\n' then upToReplacement mark n ('n' :: '\\' :: acc)
            else if d = mark && d ≠ '&' then upToReplacement mark n (d :: acc)
            else upToReplacement mark n (d :: '\\' :: acc)
        else upToReplacement mark n (c :: acc)

/-- The characters of a text, each with its octets; a backslash goes with what follows it. -/
def mapChars : Nat → Text → List Text
  | 0, _ => []
  | _ + 1, [] => []
  | n + 1, '\\' :: r =>
    match r with
    | '\\' :: s => ['\\'] :: mapChars n s
    | 'n' :: s => ['\n'] :: mapChars n s
    | _ =>
      match special r with
      | some (c, rest) => [c] :: mapChars n rest
      | none => ['\\'] :: mapChars n r
  | n + 1, c :: r =>
    let more := if 0xC0 ≤ c.toNat then r.takeWhile fun d => 0x80 ≤ d.toNat && d.toNat < 0xC0 else []
    (c :: more) :: mapChars n (r.drop more.length)

def readMap : Reads (List (Text × Text)) := do
  let unended {α : Type} : Reads α := fault "unterminated \x60y' command"
  match ← next with
  | none | some '\n' | some '\\' => unended
  | some mark =>
    let n ← fuel
    let some a ← upToMark mark false n false false []
      | unended
    let some b ← upToMark mark false n false false []
      | unended
    let as := mapChars (a.length + 1) a
    let bs := mapChars (b.length + 1) b
    if as.length ≠ bs.length then fault "strings for \x60y' command are different lengths"
    readEnd
    return as.zip bs

def isPlain (c : Char) : Bool := "=dDFgGhHnNpPzx".toList.contains c

/-- Reads one command; nothing at the end. -/
def readCommand (s : Script) : Reads (Option Script) := do
  let _ ← takeWhile fun c => c = ';' || isSpace c
  match ← peek with
  | none => return none
  | some _ =>
    let first ← readAddress
    skipBlanks
    let mut last : Option Until := none
    if first.isSome then
      if (← peek) = some ',' then
        let _ ← next
        match ← readUntil with
        | some u => last := some u
        | none =>
          let _ ← next
          fault "unexpected \x60,'"
      skipBlanks
    match first, last with
    | some (.line 0), some (.address (.regex _)) => pure ()
    | some (.line 0), _ =>
      let _ ← next
      fault "invalid usage of line address 0"
    | _, _ => pure ()
    let mut negated := false
    if (← peek) = some '!' then
      let _ ← next
      negated := true
      skipBlanks
      if (← peek) = some '!' then
        let _ ← next
        fault "multiple \x60!'s"
    let index := s.commands.size
    let make := fun (a : Action) =>
      ({ s with commands := s.commands.push ⟨first, last, negated, a⟩ } : Script)
    match ← next with
    | none => fault "missing command"
    | some '#' =>
      if first.isSome then fault "comments don't accept any addresses"
      let r ← get
      let t ← takeWhile (· ≠ '\n')
      let _ ← next
      if t = ['n'] && r.used = 1 && r.isFirst then return some { s with quiet := true }
      return some s
    | some '{' => return some { make (.block 0) with blocks := (index, (← get).number) :: s.blocks }
    | some '}' =>
      match s.blocks with
      | [] => fault "unexpected \x60\x7d'"
      | (b, _) :: bs =>
        if first.isSome then fault "\x7d doesn't want any addresses"
        readEnd
        let t := make .closing
        return some { t with
          blocks := bs
          commands := t.commands.modify b fun c => { c with action := .block index } }
    | some c =>
      if c = 'a' || c = 'i' || c = 'c' then return some (make (.text c (← readText)))
      else if c = ':' then
        if first.isSome then fault ": doesn't want any addresses"
        let l ← readLabel false
        if l = [] then fault "\":\" lacks a label"
        return some { make .label with labels := s.labels ++ [(l, index)] }
      else if c = 'b' || c = 't' || c = 'T' then
        let l ← readLabel true
        readEnd
        return some (make (.jump c l))
      else if c = 'q' || c = 'Q' || c = 'l' || c = 'L' then
        if last.isSome && (c = 'q' || c = 'Q') then fault "command only uses one address"
        skipBlanks
        let n ← if (← peek).any Char.isDigit then some <$> readNumber else pure none
        readEnd
        return some (make (.number c n))
      else if isPlain c then
        readEnd
        return some (make (.plain c))
      else if c = 'r' || c = 'R' || c = 'w' || c = 'W' then return some (make (.file c (← readName)))
      else if c = 's' then return some (make (.substitute (← readSubstitution)))
      else if c = 'y' then return some (make (.map (← readMap)))
      else fault ("unknown command: \x60" ++ String.ofList [c] ++ "'")

def readAll : Nat → Script → Reads Script
  | 0, s => return s
  | n + 1, s => do
    match ← readCommand s with
    | some s => readAll n s
    | none =>
      let r ← get
      match r.more with
      | t :: ts =>
        set { r with rest := t, used := 0, number := r.number + 1, more := ts, isFirst := false }
        readAll n s
      | [] => return s

/-- Reads a script that is given in parts, or as a file. -/
def Script.ofParts (extended : Bool) (s : Script) (file : Option Text) (number : Nat)
    (parts : List Text) : Except Text Script :=
  match parts with
  | [] => .ok s
  | t :: ts =>
    let size := parts.foldl (fun n p => n + p.length + 2) 4
    let reader : Reader := {
      file := file, number := number, rest := t, more := ts, extended := extended
      isFirst := s.commands.isEmpty }
    ((readAll size s).run reader).map (·.1)

/-- What is wrong with a whole script, and the status that this is. -/
def Script.fault? (s : Script) : Option (Text × Nat) :=
  match s.blocks with
  | (_, n) :: _ =>
    some ("-e expression #".toList ++ Raw.ofNat n ++ ", char 0: unmatched \x60\x7b'".toList, 1)
  | [] =>
    s.commands.toList.findSome? fun c =>
      match c.action with
      | .jump _ l =>
        if l = [] || (s.labels.lookup l).isSome then none
        else some ("can't find label for jump to \x60".toList ++ l ++ ['\''], 4)
      | _ => none

end TestWeaver.Utility.Edit
