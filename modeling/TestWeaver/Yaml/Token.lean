import TestWeaver.Decimal.Reading
import TestWeaver.Text.Wide
import TestWeaver.Yaml.Character

/-!
The tokens of a YAML text.

Block structure is told by indentation: `indent` is the column of the innermost block and
`indents` those around it. A key need not be marked, so every place where one could start is
remembered, once for each level of flow brackets, and the key token is put in there when a
value follows on the same line. No more of the text is read than the next token needs, so what
is wrong behind it shows only when somebody asks for more.
-/

namespace TestWeaver.Yaml

/-- A line that starts with a percent sign. -/
inductive Directive where
  | version (major : Nat)
  | tag (handle target : Text)
  | other
deriving DecidableEq, Repr

inductive Token where
  | directive (d : Directive)
  | documentStart
  | documentEnd
  | blockSequence
  | blockMapping
  | blockEnd
  | flowSequence
  | flowSequenceEnd
  | flowMapping
  | flowMappingEnd
  | comma
  | entry
  | key
  | value
  | alias (name : Text)
  | anchor (name : Text)
  | tag (handle : Option Text) (suffix : Text)
  | scalar (text : Text) (plain : Bool)
deriving DecidableEq, Repr

/-- A place where a key may have started: how many tokens stand before it in the whole text, where
it is, and whether only a key can stand there. -/
structure KeyPlace where
  tokens : Nat
  required : Bool
  index : Nat
  line : Nat
  column : Nat

structure Lexer where
  rest : Text
  index : Nat := 0
  line : Nat := 0
  column : Nat := 0
  flow : Nat := 0
  indent : Int := -1
  indents : List Int := []
  keyAllowed : Bool := true
  keys : List (Nat × KeyPlace) := []
  /-- Tokens that are read and not yet taken. -/
  tokens : List Token := []
  taken : Nat := 0
  ended : Bool := false
  /-- The length of the whole text. -/
  size : Nat

abbrev Lex := StateT Lexer (Except Fault)

namespace Lexer

/-- A key ends at most this many characters behind its start. -/
def maxKeyLength : Nat := 1024

def malformed {α : Type} : Lex α := throw .malformed

def advance (l : Lexer) : Lexer :=
  match l.rest with
  | [] => l
  | c :: r =>
    if isBreak c && !(c = '\r' && r.head? = some '\n') then
      { l with rest := r, index := l.index + 1, line := l.line + 1, column := 0 }
    else
      { l with
        rest := r, index := l.index + 1
        column := if c = byteOrderMark then l.column else l.column + 1 }

def peekAt (n : Nat) : Lex Char := do return (← get).rest.getD n endMark

def peek : Lex Char := peekAt 0

def forward (n : Nat) : Lex Unit := modify fun l => n.repeat advance l

def ahead (n : Nat) : Lex Text := do return (← get).rest.take n

/-- Reads as long as the characters are in a class. -/
def takeWhile (p : Char → Bool) : Lex Text := do
  let s := (← get).rest.takeWhile p
  forward s.length
  return s

def skipSpaces : Lex Unit := do
  let _ ← takeWhile (· = ' ')

def skipToBreak : Lex Unit := do
  let _ ← takeWhile fun c => !isBreakOrEnd c

/-- Requires the next character to be in a class. -/
def expect (p : Char → Bool) : Lex Unit := do
  if p (← peek) then return else malformed

/-- Reads a line break, if there is one; all but the two separators are read as a newline. -/
def lineBreak : Lex Text := do
  let c ← peek
  if !isBreak c then return []
  else if c = '\r' && (← peekAt 1) = '\n' then
    forward 2
    return ['\n']
  else
    forward 1
    return if c.toNat < 0x2028 then ['\n'] else [c]

/-- Three equal dashes or dots with a gap behind them. -/
def atDocumentMark : Lex Bool := do
  let m ← ahead 3
  return (m = ['-', '-', '-'] || m = ['.', '.', '.']) && isGap (← peekAt 3)

/-! ### keys and indentation -/

def emit (t : Token) : Lex Unit := modify fun l => { l with tokens := l.tokens ++ [t] }

/-- Puts a token behind the first `n` of the text. -/
def emitAt (n : Nat) (t : Token) : Lex Unit :=
  modify fun l =>
    { l with tokens := l.tokens.take (n - l.taken) ++ t :: l.tokens.drop (n - l.taken) }

def allowKey (b : Bool) : Lex Unit := modify fun l => { l with keyAllowed := b }

/-- Forgets the key place of the current level. -/
def dropKey : Lex Unit := do
  let l ← get
  match l.keys.lookup l.flow with
  | none => return
  | some k =>
    if k.required then malformed
    else set { l with keys := l.keys.filter fun p => p.1 ≠ l.flow }

/-- Forgets key places that lie too far back. -/
def dropStaleKeys : Lex Unit := do
  let l ← get
  let stale := fun (k : KeyPlace) => k.line ≠ l.line || maxKeyLength < l.index - k.index
  if l.keys.any fun p => stale p.2 && p.2.required then malformed
  else set { l with keys := l.keys.filter fun p => !stale p.2 }

/-- Remembers that a key may start here. -/
def saveKey : Lex Unit := do
  let l ← get
  if l.keyAllowed then
    dropKey
    let required := l.flow = 0 && l.indent = l.column
    modify fun m => { m with
      keys := (l.flow, ⟨l.taken + l.tokens.length, required, l.index, l.line, l.column⟩) :: m.keys }

def unwindIn (column : Int) (l : Lexer) : List Int → Lexer
  | [] => l
  | i :: is =>
    if column < l.indent then
      unwindIn column { l with indent := i, indents := is, tokens := l.tokens ++ [.blockEnd] } is
    else l

/-- Closes the blocks that are indented more than a column. -/
def unwind (column : Int) : Lex Unit :=
  modify fun l => if l.flow = 0 then unwindIn column l l.indents else l

/-- Opens a block at a column, unless one that is indented as much is open. -/
def addIndent (column : Int) : Lex Bool := do
  let l ← get
  if l.indent < column then
    set { l with indent := column, indents := l.indent :: l.indents }
    return true
  else return false

/-! ### directives, anchors and tags -/

def tagHandle : Lex Text := do
  expect (· = '!')
  forward 1
  if (← peek) = ' ' then return ['!']
  let name ← takeWhile isNameChar
  if (← peek) = '!' then
    forward 1
    return '!' :: name ++ ['!']
  else malformed

def octetEscapes : Nat → Lex Utf8.Octets
  | 0 => return []
  | n + 1 => do
    if (← peek) = '%' then
      forward 1
      let digits ← ahead 2
      if digits.length = 2 && digits.all isHexDigit then
        forward 2
        return UInt8.ofNat (hexNumber digits) :: (← octetEscapes n)
      else malformed
    else return []

def uriFrom : Nat → Lex Text
  | 0 => return []
  | n + 1 => do
    let s ← takeWhile fun c => isUriChar c && c ≠ '%'
    if (← peek) = '%' then
      match Utf8.decode (← octetEscapes (n + 1)) with
      | .ok t => return s ++ t ++ (← uriFrom n)
      | .error _ => malformed
    else return s

def uri : Lex Text := do
  let s ← uriFrom ((← get).rest.length + 1)
  if s = [] then malformed else return s

def endOfDirective : Lex Unit := do
  skipSpaces
  if (← peek) = '#' then skipToBreak
  expect isBreakOrEnd
  let _ ← lineBreak

def digits : Lex Nat := do
  match ← takeWhile Char.isDigit with
  | [] => malformed
  | ds =>
    if Decimal.maxDigits < ds.length then throw (.tooManyDigits ds.length)
    else return Decimal.digitsValue ds

def directive : Lex Directive := do
  forward 1
  let name ← takeWhile isNameChar
  if name = [] then malformed
  expect isSpaceOrEnd
  if name = "YAML".toList then
    skipSpaces
    let major ← digits
    expect (· = '.')
    forward 1
    let _ ← digits
    expect isSpaceOrEnd
    endOfDirective
    return .version major
  else if name = "TAG".toList then
    skipSpaces
    let handle ← tagHandle
    expect (· = ' ')
    skipSpaces
    let target ← uri
    expect isSpaceOrEnd
    endOfDirective
    return .tag handle target
  else
    skipToBreak
    endOfDirective
    return .other

/-- The name behind an ampersand or a star. -/
def anchorName : Lex Text := do
  forward 1
  let name ← takeWhile isNameChar
  if name = [] then malformed
  expect fun c => isGap c || endsName c
  return name

def tag : Lex Token := do
  let c ← peekAt 1
  let t ←
    if c = '<' then do
      forward 2
      let s ← uri
      expect (· = '>')
      forward 1
      pure (Token.tag none s)
    else if isGap c then do
      forward 1
      pure (Token.tag none ['!'])
    else do
      let word := ((← get).rest.drop 1).takeWhile fun c => !isSpaceOrEnd c
      let handle ← if word.contains '!' then tagHandle else do
        forward 1
        pure ['!']
      pure (Token.tag (some handle) (← uri))
  expect isSpaceOrEnd
  return t

/-! ### block scalars -/

/-- Which line breaks at the end of a block scalar are kept. -/
inductive Chomping where
  | strip
  | clip
  | keep
deriving DecidableEq

def chomping : Lex Chomping := do
  match ← peek with
  | '+' =>
    forward 1
    return .keep
  | '-' =>
    forward 1
    return .strip
  | _ => return .clip

def increment : Lex (Option Nat) := do
  let c ← peek
  if c.isDigit then
    if c = '0' then malformed
    forward 1
    return some (c.toNat - 48)
  else return none

def blockHeader : Lex (Chomping × Option Nat) := do
  let c ← chomping
  let i ← increment
  let c ← if c = .clip && i ≠ none then chomping else pure c
  expect isSpaceOrEnd
  return (c, i)

/-- The empty lines in front of a block scalar, and the largest column reached in them. -/
def leadingBreaks (deepest : Nat) : Nat → Lex (List Text × Nat)
  | 0 => return ([], deepest)
  | n + 1 => do
    let c ← peek
    if c = ' ' then
      forward 1
      leadingBreaks (max deepest (← get).column) n
    else if isBreak c then
      let b ← lineBreak
      let (bs, d) ← leadingBreaks deepest n
      return (b :: bs, d)
    else return ([], deepest)

def skipIndent (indent : Nat) : Lex Unit := do
  let l ← get
  forward ((l.rest.takeWhile (· = ' ')).length.min (indent - l.column))

/-- Line breaks, the indentation behind each skipped. -/
def innerBreaks (indent : Nat) : Nat → Lex (List Text)
  | 0 => return []
  | n + 1 => do
    skipIndent indent
    if isBreak (← peek) then
      let b ← lineBreak
      return b :: (← innerBreaks indent n)
    else return []

def isInline (c : Char) : Bool := c ≠ ' ' && c ≠ '\t'

/-- The lines of a block scalar, then the break behind the last one and the empty lines that
follow it. -/
def blockLines (folded : Bool) (indent : Nat) (breaks : List Text) :
    Nat → Lex (Text × Text × List Text)
  | 0 => return ([], [], breaks)
  | n + 1 => do
    let l ← get
    if l.column = indent && l.rest ≠ [] then
      let first ← peek
      let line ← takeWhile fun c => !isBreakOrEnd c
      let b ← lineBreak
      let next ← innerBreaks indent ((← get).rest.length + 1)
      let l ← get
      let text := breaks.flatten ++ line
      if l.column = indent && l.rest ≠ [] then
        let joint :=
          if folded && b = ['\n'] && isInline first && isInline (← peek) then
            if next = [] then [' '] else []
          else b
        let (t, last, behind) ← blockLines folded indent next n
        return (text ++ joint ++ t, last, behind)
      else return (text, b, next)
    else return ([], [], breaks)

def blockScalar (folded : Bool) : Lex Token := do
  forward 1
  let (chomp, step) ← blockHeader
  endOfDirective
  let least := (max 1 ((← get).indent + 1)).toNat
  let fuel := (← get).rest.length + 1
  let (breaks, indent) ←
    match step with
    | none => do
      let (bs, d) ← leadingBreaks 0 fuel
      pure (bs, max least d)
    | some k => do
      let bs ← innerBreaks (least + k - 1) fuel
      pure (bs, least + k - 1)
  let (text, last, behind) ← blockLines folded indent breaks fuel
  let close := if chomp = .strip then [] else last
  let tail := if chomp = .keep then behind.flatten else []
  return .scalar (text ++ close ++ tail) false

/-! ### quoted scalars -/

/-- Line breaks inside quotes; blanks around them do not count. -/
def quotedBreaks : Nat → Lex Text
  | 0 => return []
  | n + 1 => do
    if ← atDocumentMark then malformed
    let _ ← takeWhile fun c => c = ' ' || c = '\t'
    if isBreak (← peek) then
      let b ← lineBreak
      return b ++ (← quotedBreaks n)
    else return []

/-- Blanks inside quotes: kept in a line, folded around a line break. -/
def quotedSpaces : Lex Text := do
  let spaces ← takeWhile fun c => c = ' ' || c = '\t'
  let c ← peek
  if c = endMark then malformed
  else if isBreak c then
    let b ← lineBreak
    let bs ← quotedBreaks ((← get).rest.length + 1)
    let first := if b ≠ ['\n'] then b else if bs = [] then [' '] else []
    return first ++ bs
  else return spaces

/-- What a backslash and a character stand for between double quotes. -/
def escapes : List (Char × Nat) := [
  ('0', 0x00), ('a', 0x07), ('b', 0x08), ('t', 0x09), ('\t', 0x09), ('n', 0x0A), ('v', 0x0B),
  ('f', 0x0C), ('r', 0x0D), ('e', 0x1B), (' ', 0x20), ('"', 0x22), ('\\', 0x5C), ('/', 0x2F),
  ('N', 0x85), ('_', 0xA0), ('L', 0x2028), ('P', 0x2029)]

/-- Letters behind which a code point of so many hexadecimal digits follows. -/
def codeEscapes : List (Char × Nat) := [('x', 2), ('u', 4), ('U', 8)]

def codePoint (n : Nat) : Lex Char :=
  if n ≤ 0x10FFFF then return Wide.charOf n
  else if n ≤ 0x7FFFFFFF then throw (.noValue "chr() arg not in range(0x110000)".toList)
  else throw (.overflow "Python int too large to convert to C int".toList)

/-- What follows a backslash between double quotes. -/
def escape : Lex Text := do
  forward 1
  let c ← peek
  match escapes.lookup c, codeEscapes.lookup c with
  | some n, _ =>
    forward 1
    return [Char.ofNat n]
  | none, some size =>
    forward 1
    let ds ← ahead size
    if ds.length = size && ds.all isHexDigit then
      let d ← codePoint (hexNumber ds)
      forward size
      return [d]
    else malformed
  | none, none =>
    if isBreak c then
      let _ ← lineBreak
      quotedBreaks ((← get).rest.length + 1)
    else malformed

/-- Text inside quotes up to a blank or the closing quote. -/
def quotedText (double : Bool) : Nat → Lex Text
  | 0 => return []
  | n + 1 => do
    let s ← takeWhile fun c => !(c = '\'' || c = '"' || c = '\\' || isGap c)
    let c ← peek
    if !double && c = '\'' && (← peekAt 1) = '\'' then
      forward 2
      return s ++ '\'' :: (← quotedText double n)
    else if (double && c = '\'') || (!double && (c = '"' || c = '\\')) then
      forward 1
      return s ++ c :: (← quotedText double n)
    else if double && c = '\\' then
      let e ← escape
      return s ++ e ++ (← quotedText double n)
    else return s

def quotedRest (double : Bool) : Nat → Lex Text
  | 0 => malformed
  | n + 1 => do
    let s ← quotedText double ((← get).rest.length + 1)
    if (← peek) = (if double then '"' else '\'') then
      forward 1
      return s
    else
      let t ← quotedSpaces
      return s ++ t ++ (← quotedRest double n)

def quotedScalar (double : Bool) : Lex Token := do
  forward 1
  return .scalar (← quotedRest double ((← get).rest.length + 1)) false

/-! ### plain scalars -/

/-- How many characters a plain scalar takes before a blank or an indicator. -/
def plainLength (flow : Bool) : Text → Nat
  | [] => 0
  | c :: s =>
    let next := s.head?.getD endMark
    if isGap c || (c = ':' && (isGap next || (flow && isFlowMark next))) ||
        (flow && (c = '?' || isFlowMark c)) then 0
    else plainLength flow s + 1

/-- The line breaks behind the first one between the words of a plain scalar, unless a document
mark follows one. -/
def plainBreaks : Nat → Lex (Option Text)
  | 0 => return some []
  | n + 1 => do
    let c ← peek
    if c = ' ' then
      forward 1
      plainBreaks n
    else if isBreak c then
      let b ← lineBreak
      if ← atDocumentMark then return none
      return (← plainBreaks n).map (b ++ ·)
    else return some []

/-- What stands between two words of a plain scalar; nothing if the scalar ends here. -/
def plainSpaces : Lex Text := do
  let spaces ← takeWhile (· = ' ')
  if isBreak (← peek) then
    let b ← lineBreak
    allowKey true
    if ← atDocumentMark then return []
    match ← plainBreaks ((← get).rest.length + 1) with
    | none => return []
    | some bs => return (if b ≠ ['\n'] then b else if bs = [] then [' '] else []) ++ bs
  else return spaces

def plainWords (indent : Int) (spaces : Text) : Nat → Lex Text
  | 0 => return []
  | n + 1 => do
    let l ← get
    let size := if (← peek) = '#' then 0 else plainLength (0 < l.flow) l.rest
    if size = 0 then return []
    allowKey false
    let word ← ahead size
    forward size
    let next ← plainSpaces
    let l ← get
    if next = [] || (← peek) = '#' || (l.flow = 0 && l.column < indent) then
      return spaces ++ word
    else return spaces ++ word ++ (← plainWords indent next n)

def plainScalar : Lex Token := do
  let l ← get
  return .scalar (← plainWords (l.indent + 1) [] (l.rest.length + 1)) true

/-! ### the next token -/

def skipToToken : Nat → Lex Unit
  | 0 => return
  | n + 1 => do
    skipSpaces
    if (← peek) = '#' then skipToBreak
    if (← lineBreak) ≠ [] then
      if (← get).flow = 0 then allowKey true
      skipToToken n

def documentMark (t : Token) : Lex Unit := do
  unwind (-1)
  dropKey
  allowKey false
  forward 3
  emit t

def openFlow (t : Token) : Lex Unit := do
  saveKey
  modify fun l => { l with flow := l.flow + 1 }
  allowKey true
  forward 1
  emit t

def closeFlow (t : Token) : Lex Unit := do
  dropKey
  if (← get).flow = 0 then malformed
  modify fun l => { l with flow := l.flow - 1 }
  allowKey false
  forward 1
  emit t

/-- Opens a block for an entry, a key or a value that stands at the start of one. -/
def openBlock (t : Token) : Lex Unit := do
  let l ← get
  if l.flow = 0 then
    if !l.keyAllowed then malformed
    if ← addIndent l.column then emit t

def entryToken : Lex Unit := do
  openBlock .blockSequence
  allowKey true
  dropKey
  forward 1
  emit .entry

def keyToken : Lex Unit := do
  openBlock .blockMapping
  allowKey ((← get).flow = 0)
  dropKey
  forward 1
  emit .key

def valueToken : Lex Unit := do
  let l ← get
  match l.keys.lookup l.flow with
  | some k =>
    set { l with keys := l.keys.filter fun p => p.1 ≠ l.flow }
    emitAt k.tokens .key
    if l.flow = 0 then
      if ← addIndent k.column then emitAt k.tokens .blockMapping
    allowKey false
  | none =>
    openBlock .blockMapping
    allowKey ((← get).flow = 0)
    dropKey
  forward 1
  emit .value

/-- A token that may be, or start, a key. -/
def contentToken (read : Lex Token) : Lex Unit := do
  saveKey
  allowKey false
  emit (← read)

def startsPlain (c next : Char) (flow : Bool) : Bool :=
  !(isGap c || isIndicator c) ||
    (!isGap next && (c = '-' || (!flow && (c = '?' || c = ':'))))

/-- Reads the token at the current place, of which `c` is the first character. -/
def tokenAt (c : Char) : Lex Unit := do
  let l ← get
  let next ← peekAt 1
  let mark := l.column = 0 && (← atDocumentMark)
  if c = '%' && l.column = 0 then
    unwind (-1)
    dropKey
    allowKey false
    emit (.directive (← directive))
  else if c = '-' && mark then documentMark .documentStart
  else if c = '.' && mark then documentMark .documentEnd
  else if c = '[' then openFlow .flowSequence
  else if c = '{' then openFlow .flowMapping
  else if c = ']' then closeFlow .flowSequenceEnd
  else if c = '}' then closeFlow .flowMappingEnd
  else if c = ',' then
    allowKey true
    dropKey
    forward 1
    emit .comma
  else if c = '-' && isGap next then entryToken
  else if c = '?' && (0 < l.flow || isGap next) then keyToken
  else if c = ':' && (0 < l.flow || isGap next) then valueToken
  else if c = '*' then contentToken (return .alias (← anchorName))
  else if c = '&' then contentToken (return .anchor (← anchorName))
  else if c = '!' then contentToken tag
  else if (c = '|' || c = '>') && l.flow = 0 then
    allowKey true
    dropKey
    emit (← blockScalar (c = '>'))
  else if c = '\'' then contentToken (quotedScalar false)
  else if c = '"' then contentToken (quotedScalar true)
  else if startsPlain c next (0 < l.flow) then contentToken plainScalar
  else malformed

/-- Reads on to at least one more token, or to the end. -/
def fetch : Lex Unit := do
  skipToToken ((← get).rest.length + 1)
  dropStaleKeys
  unwind (← get).column
  let c ← peek
  if c = endMark then
    unwind (-1)
    dropKey
    modify fun l => { l with ended := true, keys := [] }
  else tokenAt c

/-- Whether the next token is not known yet: it may turn out to be a key. -/
def needsMore : Lex Bool := do
  let l ← get
  if l.ended then return false
  else if l.tokens.isEmpty then return true
  else
    dropStaleKeys
    return (← get).keys.any fun p => p.2.tokens = l.taken

def fill : Nat → Lex Unit
  | 0 => return
  | n + 1 => do
    if ← needsMore then
      fetch
      fill n

/-- The next token, which stays where it is; there is none at the end. -/
def next? : Lex (Option Token) := do
  fill ((← get).size + 2)
  return (← get).tokens.head?

def take : Lex Unit := modify fun l => { l with tokens := l.tokens.drop 1, taken := l.taken + 1 }

/-- The start of a text, if it holds allowed characters only. A mark of the byte order is no part
of it. -/
def ofText (s : Text) : Except Fault Lexer :=
  if s.all isAllowed then
    let s := if s.head? = some byteOrderMark then s.drop 1 else s
    .ok { rest := s, size := s.length }
  else .error .malformed

end Lexer

end TestWeaver.Yaml
