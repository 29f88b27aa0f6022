import TestWeaver.Machine.Work
import TestWeaver.Shell.Script

/-!
Reading scripts: characters, words and tokens.

A backslash in front of a line break hides both, except between single quotes. A word may hold
whole commands, so `Nested` says how those are read.
-/

namespace TestWeaver.Shell

inductive Token where
  | ending
  | newline
  | mark (s : String)
  | redirect
  | word
  | keyword (s : String)
deriving DecidableEq, Repr

def Token.name : Token → Text
  | ending => "end of file".toList
  | newline => "newline".toList
  | mark s | keyword s => '"' :: s.toList ++ ['"']
  | redirect => "redirection".toList
  | word => "word".toList

/-- A text inside a script that begins on the next line. -/
structure Pending where
  number : Nat
  last : Text
  quoted : Bool
  indented : Bool
  line : Nat

/-- A redirection whose word is still to be read. -/
inductive Opening where
  | file (stream : Nat) (way : Way)
  | duplicate (stream : Nat)
  | text (stream : Nat) (indented : Bool)
  | word (stream : Nat)
  | all (append : Bool)

/-- What is looked for in front of a word and in it: line breaks to skip, keywords, and names
that stand for other texts. `mark` is set while the end of a text is read. -/
structure Checks where
  newlines : Bool := false
  keywords : Bool := false
  aliases : Bool := false
  mark : Bool := false

structure Source where
  rest : Text
  line : Nat := 1
  /-- The last token as it stands in the script, and the one before it. -/
  text : Text := []
  textBefore : Text := []
  /-- Whether the last token is to be read again. -/
  again : Bool := false
  last : Token := .ending
  word : Word := []
  opening : Opening := .file 1 .write
  /-- The variable that gets the number of the stream. -/
  streamName : Option Text := none
  checks : Checks := {}
  pending : List Pending := []
  bodies : List (Nat × Word) := []
  nextBody : Nat := 0
  aliases : List (Text × Text) := []
  /-- Names whose other texts are being read, and how much is left behind each text. -/
  inside : List (Text × Nat) := []
  bash : Bool := false
  /-- Whether a mark in front of a parenthesis makes a pattern of it. -/
  extended : Bool := false
  /-- Whether conditions are read, in which such patterns are always known. -/
  testing : Bool := false
  /-- What is said of a script before it is run, the last complaint first. -/
  warnings : List (Nat × Text) := []

abbrev Reads := StateT Source (Except ScriptFault)

/-- How commands inside words are read: up to a closing parenthesis, or to the end. -/
structure Nested where
  closed : Reads (List Command)
  whole : Reads (List Command)
  setting : Text → Reads (Option Word)

namespace Reads

def fail {α : Type} (message : Text) : Reads α := do throw ⟨(← get).line, message, none⟩

def failWith {α : Type} (message : String) : Reads α := fail message.toList

/-- The fault that something is not closed before the end. -/
def unclosed {α : Type} (message : String) : Reads α := do
  if (← get).bash then throw ⟨0, [], none⟩ else failWith message

/-- What bash says of something that is not closed. -/
def unmatched (c : Char) : Text :=
  "unexpected EOF while looking for matching \x60".toList ++ [c, '\'']

/-- Reads something up to a character that closes it, and says so if that is missing. -/
def enclosed {α : Type} (close : Char) (a : Reads α) : Reads α := fun s =>
  match a s with
  | .error ⟨0, _, _⟩ => .error ⟨s.line, unmatched close, none⟩
  | r => r

/-- The next character, backslashes at the end of lines not looked at. -/
def next? : Reads (Option Char) := do return (← get).rest.head?

def advance : Reads Unit := do
  let s ← get
  match s.rest with
  | [] => return
  | c :: r => set { s with rest := r, line := if c = '\n' then s.line + 1 else s.line }

def joinLines : Nat → Reads Unit
  | 0 => return
  | n + 1 => do
    match (← get).rest with
    | '\\' :: '\n' :: _ =>
      advance
      advance
      joinLines n
    | _ => return

/-- The next character behind hidden line breaks. -/
def peek : Reads (Option Char) := do
  match (← get).rest with
  | '\\' :: '\n' :: _ =>
    joinLines (← get).rest.length
    next?
  | s => return s.head?

/-- Reads a character if it is the next one. -/
def accept (c : Char) : Reads Bool := do
  if (← peek) = some c then
    advance
    return true
  else return false

/-- Reads as long as the characters are in a class that holds no line break. -/
def takeWhile (p : Char → Bool) : Reads Text := do
  let s ← get
  let t := s.rest.takeWhile p
  set { s with rest := s.rest.drop t.length }
  return t

def fuel : Reads Nat := do return (← get).rest.length + 2

end Reads

open Reads

/-! ### words -/

/-- Where parts stand: at the top of a word, between the braces of a parameter, which may be
quoted themselves, between double quotes, in a sum, or in a text of a script. -/
inductive Place where
  | top
  | braces (quoted : Bool)
  | double
  | sum
  /-- A sum between brackets. -/
  | bracket
  /-- A number in braces, behind which a colon or the end stands. -/
  | offset
  /-- The alternatives of a pattern. -/
  | group
  | text
deriving DecidableEq, Repr

def Place.quoted : Place → Bool
  | .top | .braces false | .group => false
  | _ => true

def backquote : Char := '\x60'

def isBlank (c : Char) : Bool := c = ' ' || c = '\t'

/-- Characters that end a word. -/
def endsWord (c : Char) : Bool := isBlank c || c = '\n' || ";&|<>()".toList.contains c

def isOrdinary (p : Place) (c : Char) : Bool :=
  !(c = '\\' || c = '$' || c = backquote || c = '\n') &&
    match p with
    | .top => !(c = '\'' || c = '"' || endsWord c)
    | .braces false => !(c = '\'' || c = '"' || c = '\x7d')
    | .sum => !(c = '(' || c = ')')
    | .bracket => !(c = '[' || c = ']')
    | .offset => !("()?:\x7d\"".toList.contains c)
    | .group => !(c = '\'' || c = '"' || c = '(' || c = ')')
    | _ => !(c = '"' || c = '\x7d')

def isSpecialName (c : Char) : Bool := c.isDigit || "@*#?$!-".toList.contains c

def literal (p : Place) (s : Text) : Part := if p.quoted then .exact s else .plain s

/-- What a backslash hides inside quotes. -/
def isHidden (p : Place) (c : Char) : Bool :=
  c = '\\' || c = '$' || c = backquote || (c = '"' && p ≠ .text) ||
    (c = '\x7d' && p = .braces true)

def singleQuoted : Reads Text := enclosed '\'' do
  advance
  let rec go : Nat → Reads Text
    | 0 => unclosed "Unterminated quoted string"
    | n + 1 => do
      let t ← takeWhile fun c => c ≠ '\'' && c ≠ '\n'
      match ← next? with
      | none => unclosed "Unterminated quoted string"
      | some c =>
        advance
        if c = '\'' then return t else return t ++ '\n' :: (← go n)
  go (← fuel)

def hexDigit? (c : Char) : Option Nat :=
  if c.isDigit then some (c.toNat - 48)
  else if 'a' ≤ c && c ≤ 'f' then some (c.toNat - 87)
  else if 'A' ≤ c && c ≤ 'F' then some (c.toNat - 55)
  else none

def isOctal (c : Char) : Bool := '0' ≤ c && c ≤ '7'

def hexValue (s : Text) : Nat := s.foldl (fun n c => 16 * n + (hexDigit? c).getD 0) 0

def octalValue (s : Text) : Nat := s.foldl (fun n c => 8 * n + (c.toNat - 48)) 0

/-- The octets of a character, as a raw text. -/
def rawChar (n : Nat) : Text :=
  Raw.ofText [Char.ofNat n]

/-- Text with backslashes of the C language, up to a single quote. -/
def ansiQuoted : Reads Text := enclosed '\'' do
  advance
  let rec go : Nat → Reads Text
    | 0 => unclosed "Unterminated quoted string"
    | n + 1 => do
      match ← next? with
      | none => unclosed "Unterminated quoted string"
      | some '\'' =>
        advance
        return []
      | some '\\' =>
        advance
        let c := (← next?).getD '\\'
        advance
        let number := fun (p : Char → Bool) (most : Nat) => do
          let ds := ((← get).rest.take most).takeWhile p
          modify fun s => { s with rest := s.rest.drop ds.length }
          pure ds
        let t ← match c with
          | 'n' => pure ['\n']
          | 't' => pure ['\t']
          | 'r' => pure ['\r']
          | 'a' => pure ['\x07']
          | 'b' => pure ['\x08']
          | 'e' | 'E' => pure ['\x1b']
          | 'f' => pure ['\x0c']
          | 'v' => pure ['\x0b']
          | '\\' | '\'' | '"' | '?' => pure [c]
          | 'x' => do
            let ds ← number (fun d => (hexDigit? d).isSome) 2
            pure (if ds = [] then ['\\', 'x'] else [Char.ofNat (hexValue ds)])
          | 'u' => do
            let ds ← number (fun d => (hexDigit? d).isSome) 4
            pure (if ds = [] then ['\\', 'u'] else rawChar (hexValue ds))
          | 'U' => do
            let ds ← number (fun d => (hexDigit? d).isSome) 8
            pure (if ds = [] then ['\\', 'U'] else rawChar (hexValue ds))
          | 'c' => do
            let d := (← next?).getD '@'
            advance
            pure [Char.ofNat (d.toNat % 32)]
          | _ =>
            if isOctal c then do
              let ds ← number isOctal 2
              pure [Char.ofNat (octalValue (c :: ds) % 256)]
            else pure ['\\', c]
        return t ++ (← go n)
      | some c =>
        advance
        return c :: (← go n)
  go (← fuel)

/-- Takes back quotes that hold nothing but all parameters: they make no field where there is
none. -/
def doubleParts (ps : List Part) : List Part :=
  match ps with
  | [.parameter name .none true] =>
    if name = ['@'] || name.drop (name.length - 3) = "[@]".toList then ps else .exact [] :: ps
  | _ => .exact [] :: ps

/-- The text between backquotes, of which the first one is read. -/
def backquoted (p : Place) : Nat → Reads Text
  | 0 => unclosed "EOF in backquote substitution"
  | n + 1 => do
    match ← peek with
    | none => unclosed "EOF in backquote substitution"
    | some c =>
      advance
      if c = backquote then return []
      else if c = '\\' then
        match ← next? with
        | none => unclosed "EOF in backquote substitution"
        | some d =>
          advance
          if d = '\\' || d = backquote || d = '$' || (p.quoted && d = '"') then
            return d :: (← backquoted p n)
          else return '\\' :: d :: (← backquoted p n)
      else return c :: (← backquoted p n)

/-- Runs a reader on another text. -/
def within {α : Type} (s : Text) (a : Reads α) : Reads α := do
  let before ← get
  set { before with rest := s, again := false, checks := {}, pending := [], inside := [] }
  let x ← a
  modify fun t => { before with bodies := t.bodies, nextBody := t.nextBody }
  return x

/-- The subscript behind a name, with its brackets. -/
def subscript : Reads Text := do
  let s ← get
  if s.bash && s.rest.head? = some '[' then
    let rec go : Nat → Text → Text
      | _, [] => []
      | d, c :: r =>
        if c = ']' then (if d = 0 then [c] else c :: go (d - 1) r)
        else c :: go (if c = '[' then d + 1 else d) r
    let t := go 0 (s.rest.drop 1)
    set { s with rest := s.rest.drop (t.length + 1) }
    return '[' :: t
  else return []

/-- The name of a parameter between braces, and whether its size is asked for. -/
def bracedName : Reads (Option (Text × Bool)) := do
  let name : Reads (Option Text) := do
    match ← peek with
    | none => return none
    | some c =>
      if isNameStart c then
        let n ← takeWhile isNameChar
        return some (n ++ (← subscript))
      else if c.isDigit then return some (← takeWhile Char.isDigit)
      else return none
  match ← name with
  | some n => return some (n, false)
  | none =>
    match ← peek with
    | none | some '\x7d' => return none
    | some '#' =>
      advance
      match ← name with
      | some n => return some (n, true)
      | none =>
        let r := (← get).rest
        match r with
        | c :: '\x7d' :: _ =>
          if c ≠ '\x7d' && isSpecialName c then
            advance
            return some ([c], true)
          else return some (['#'], false)
        | _ => return some (['#'], false)
    | some c =>
      if isSpecialName c then
        advance
        return some ([c], false)
      else return none

/-- Cuts parts at the first mark that is not quoted. -/
def cutParts (mark : Char) : List Part → List Part × List Part × Bool
  | [] => ([], [], false)
  | .plain s :: ps =>
    match Text.cut? [mark] s with
    | some (a, b) => ([.plain a], .plain b :: ps, true)
    | none =>
      let (a, b, c) := cutParts mark ps
      (.plain s :: a, b, c)
  | p :: ps =>
    let (a, b, c) := cutParts mark ps
    (p :: a, b, c)

/-- Commands between backquotes. In bash a fault in them shows only when they are run. -/
def commandsIn (g : Nested) (t : Text) : Reads (List Command) := fun s =>
  match within t g.whole s with
  | .ok r => .ok r
  | .error e =>
    if s.bash then
      let row := (Text.rows t).getD (e.line - s.line) []
      let e := if e.line = 0 then { e with line := s.line } else e
      .ok ([.faulty e.line e.first e.message row], s)
    else .error e

/-- Whether a character may begin a pattern with alternatives. -/
def isGroupMark (c : Char) : Bool := "?*+@!".toList.contains c

/-- The text between two states of a source. -/
def passed (before after : Source) : Text :=
  before.rest.take (before.rest.length - after.rest.length)

/-- Whether a subscript is open at the end of a text that begins a word, and is closed later on
its line in front of an equals sign. -/
def isOpenSubscript (t rest : Text) : Bool :=
  let name := t.takeWhile isNameChar
  let row := rest.takeWhile (· ≠ '\n')
  isName name && (t.drop name.length).head? = some '[' &&
    t.count '[' = t.count ']' + 1 &&
    ((Text.cut? "]=".toList row).isSome || (Text.cut? "]+=".toList row).isSome)

mutual

/-- The parts up to the end of a place, the ones before them given with the last one first.
`depth` counts parentheses that are open in a sum. -/
def parts (g : Nested) (p : Place) : Nat → Nat → List Part → Reads (List Part)
  | 0, _, acc => return acc.reverse
  | n + 1, depth, acc => do
    match ← peek with
    | none =>
      match p with
      | .top | .text => return acc.reverse
      | .sum | .bracket => unclosed "Missing '))'"
      | .braces false | .offset | .group => unclosed "Missing '\x7d'"
      | .double | .braces true => unclosed "Unterminated quoted string"
    | some c =>
      let src ← get
      let next := (src.rest.drop 1).head?
      if src.bash && (src.extended || src.testing) && p = .top && isGroupMark c && next = some '(' then
        advance
        advance
        let ps ← enclosed ')' (parts g .group n 0 [])
        parts g p n depth (.plain [')'] :: (ps.reverse ++ .plain [c, '('] :: acc))
      else if isOrdinary p c then
        let t ← takeOrdinary p src
        match acc, p with
        | [], .top =>
          let t ← if src.bash && t.contains '[' then subscriptText t n else pure t
          parts g p n depth [literal p t]
        | _, _ => parts g p n depth (literal p t :: acc)
      else if c = '\n' && p = .top then return acc.reverse
      else if c = '\\' then
        advance
        match ← next? with
        | none => parts g p n depth (.exact ['\\'] :: acc)
        | some d =>
          advance
          let t := if p.quoted && !isHidden p d then ['\\', d] else [d]
          parts g p n depth (.exact t :: acc)
      else if c = '$' then
        advance
        let q ← dollar g p n
        parts g p n depth (q.reverse ++ acc)
      else if c = backquote then
        if (← get).checks.mark then
          advance
          parts g p n depth (.plain [c] :: acc)
        else
          let t ← enclosed c (do
            advance
            backquoted p (← fuel))
          let cs ← commandsIn g t
          parts g p n depth (.output cs p.quoted :: acc)
      else
        match p, c with
        | .top, '\'' | .braces false, '\'' | .group, '\'' =>
          let t ← singleQuoted
          parts g p n depth (.exact t :: acc)
        | .top, '"' | .braces false, '"' | .braces true, '"' | .group, '"' | .offset, '"' =>
          let ps ← enclosed c (do
            advance
            parts g .double n 0 [])
          parts g p n depth ((if p.quoted then ps else doubleParts ps).reverse ++ acc)
        | .double, '"' | .braces _, '\x7d' =>
          advance
          return acc.reverse
        | .top, '<' | .top, '>' =>
          if src.bash && next = some '(' && !src.checks.mark then
            advance
            advance
            let cs ← g.closed
            parts g p n depth (.channel (c = '<') cs :: acc)
          else return acc.reverse
        | .top, _ => return acc.reverse
        | .offset, ':' | .offset, '\x7d' =>
          match depth with
          | d + 1 =>
            advance
            parts g p n (if c = ':' then d else depth) (.exact [c] :: acc)
          | 0 => return acc.reverse
        | .sum, '(' | .bracket, '[' | .offset, '(' | .offset, '?' =>
          advance
          parts g p n (depth + 1) (.exact [c] :: acc)
        | .group, '(' =>
          advance
          parts g p n (depth + 1) (.plain [c] :: acc)
        | .group, ')' =>
          advance
          match depth with
          | d + 1 => parts g p n d (.plain [c] :: acc)
          | 0 => return acc.reverse
        | .offset, ')' =>
          advance
          parts g p n (depth - 1) (.exact [c] :: acc)
        | .bracket, ']' =>
          advance
          match depth with
          | d + 1 => parts g p n d (.exact [c] :: acc)
          | 0 => return acc.reverse
        | .sum, ')' =>
          advance
          match depth with
          | d + 1 => parts g p n d (.exact [c] :: acc)
          | 0 =>
            if ← accept ')' then return acc.reverse
            else if src.bash then throw ⟨src.line, "no sum".toList, none⟩
            else parts g p n 0 (.exact [c] :: acc)
        | _, _ =>
          advance
          parts g p n depth (literal p [c] :: acc)
where
  /-- Ordinary characters, up to one that begins a pattern with alternatives. -/
  takeOrdinary (p : Place) (src : Source) : Reads Text := do
    if src.bash && (src.extended || src.testing) && p = .top then
      let t := groupless src.rest
      modify fun s => { s with rest := s.rest.drop t.length }
      return t
    else takeWhile (isOrdinary p)
  groupless : Text → Text
    | [] => []
    | [c] => if isOrdinary .top c then [c] else []
    | c :: d :: r =>
      if !isOrdinary .top c || (isGroupMark c && d = '(') then [] else c :: groupless (d :: r)
  /-- The blanks in the subscript that begins a word belong to it. -/
  subscriptText (t : Text) : Nat → Reads Text
    | 0 => return t
    | n + 1 => do
      let s ← get
      match s.rest with
      | c :: _ =>
        if isBlank c && isOpenSubscript t s.rest then
          let b ← takeWhile isBlank
          let u ← takeWhile (isOrdinary .top)
          subscriptText (t ++ b ++ u) n
        else return t
      | [] => return t

/-- What stands behind a dollar sign. -/
def dollar (g : Nested) (p : Place) : Nat → Reads (List Part)
  | 0 => return []
  | n + 1 => do
    let q := p.quoted
    let s ← get
    match ← peek with
    | some '(' =>
      if s.checks.mark then return [literal p ['$']]
      advance
      if ← accept '(' then
        let before ← get
        let sum : Reads (List Part) := do
          return [.sum (← enclosed ')' (parts g .sum n 0 [])) q]
        tryCatch sum fun e => do
          if e.message = "no sum".toList then
            set { before with rest := '(' :: before.rest }
            return [.output (← g.closed) q]
          else throw e
      else return [.output (← g.closed) q]
    | some '[' =>
      if s.checks.mark || !s.bash then return [literal p ['$']]
      advance
      return [.sum (← enclosed ']' (parts g .bracket n 0 [])) q]
    | some '\x7b' =>
      if s.checks.mark then return [literal p ['$']]
      advance
      return [← enclosed '\x7d' (braced g p n)]
    | some '\'' =>
      if s.bash && !q then return [.exact (← ansiQuoted)] else return [literal p ['$']]
    | some '"' =>
      if s.bash && !q then return [] else return [literal p ['$']]
    | some c =>
      if s.checks.mark then return [literal p ['$']]
      else if isNameStart c then return [.parameter (← takeWhile isNameChar) .none q]
      else if isSpecialName c then
        advance
        return [.parameter [c] .none q]
      else return [literal p ['$']]
    | none => return [literal p ['$']]

/-- A parameter behind its opening brace. -/
def braced (g : Nested) (p : Place) : Nat → Reads Part
  | 0 => unclosed "Missing '\x7d'"
  | n + 1 => do
    let q := p.quoted
    let here : Place := .braces q
    let start ← get
    let bad : Reads Part := do
      let _ ← parts g here n 0 []
      return .parameter [] (.bad ('$' :: '\x7b' :: passed start (← get))) q
    let bash := start.bash
    if bash && start.rest.head? = some '!' && (start.rest.drop 1).head?.any isNameStart then
      advance
      let name ← takeWhile isNameChar
      let sub ← subscript
      match (← get).rest with
      | '*' :: '\x7d' :: _ =>
        advance
        advance
        return .parameter name (.names true) q
      | '@' :: '\x7d' :: _ =>
        advance
        advance
        return .parameter name (.names false) q
      | _ => if ← accept '\x7d' then return .parameter (name ++ sub) .indirect q else bad
    else
      match ← bracedName with
      | none => bad
      | some (name, true) => if ← accept '\x7d' then return .parameter name .size q else bad
      | some (name, false) =>
        let void ← accept ':'
        match ← peek with
        | some '\x7d' =>
          if void then bad
          else
            advance
            return .parameter name .none q
        | some '-' =>
          advance
          return .parameter name (.usual void (← parts g here n 0 [])) q
        | some '=' =>
          advance
          return .parameter name (.assigned void (← parts g here n 0 [])) q
        | some '?' =>
          advance
          return .parameter name (.demanded void (← parts g here n 0 [])) q
        | some '+' =>
          advance
          return .parameter name (.instead void (← parts g here n 0 [])) q
        | some c =>
          if void then
            if bash then
              let a ← parts g .offset n 0 []
              let counted ← accept ':'
              let b ← if counted then parts g .offset n 0 [] else pure []
              let _ ← parts g here n 0 []
              return .parameter name (.slice a b counted) q
            else bad
          else if c = '%' || c = '#' then
            advance
            let longest ← accept c
            return .parameter name (.trimmed (c = '%') longest (← parts g (.braces false) n 0 [])) q
          else if bash && c = '/' then
            advance
            let all ← accept '/'
            let anchor ←
              match ← next? with
              | some '#' => if all then pure ' ' else do advance; pure '#'
              | some '%' => if all then pure ' ' else do advance; pure '%'
              | _ => pure ' '
            let ps ← parts g (.braces false) n 0 []
            let (a, b, _) := cutParts '/' ps
            return .parameter name (.replaced all anchor a b) q
          else if bash && (c = '^' || c = ',') then
            advance
            let all ← accept c
            return .parameter name (.cased (c = '^') all (← parts g (.braces false) n 0 [])) q
          else if bash && c = '@' then
            match (← get).rest with
            | _ :: way :: '\x7d' :: _ =>
              advance
              advance
              advance
              return .parameter name (.shown way) q
            | _ => bad
          else bad
        | none => bad

end

end TestWeaver.Shell
