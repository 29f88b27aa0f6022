import TestWeaver.Shell.Token

/-!
Reading commands. A script is read line by line: a fault in a line does not keep those above it
from being run.
-/

namespace TestWeaver.Shell

open Reads

/-- How commands are read whose parts are commands again. -/
structure Rules where
  some : Reads (List Command)
  any : Reads (List Command)
  command : Reads Command
  nested : Nested

def keywords : List String :=
  ["!", "case", "do", "done", "elif", "else", "esac", "fi", "for", "if", "in", "then", "until",
    "while", "\x7b", "\x7d"]

def bashKeywords : List String := ["[[", "function", "time", "select", "coproc"]

/-! ### tokens -/

def skipBlanks : Nat → Reads Unit
  | 0 => return
  | n + 1 => do
    match ← peek with
    | some ' ' | some '\t' =>
      advance
      skipBlanks n
    | some '#' =>
      let _ ← takeWhile (· ≠ '\n')
      return
    | _ => return

/-- Reads a mark whose first character is already read. -/
def markFrom (first : String) (more : List String) : Reads Token := do
  let r := (← get).rest
  match more.findSome? fun m => (Text.after? m.toList r).map fun _ => m with
  | some m =>
    modify fun s => { s with rest := r.drop m.length }
    return .mark (first ++ m)
  | none => return .mark first

/-- Reads a redirection, of which the stream is already read. -/
def redirection (stream : Option Nat) : Reads Token := do
  let bash := (← get).bash
  let input ← accept '<'
  let set := fun o => do
    modify fun s => { s with opening := o }
    return Token.redirect
  if input then
    let n := stream.getD 0
    match ← peek with
    | some '<' =>
      advance
      if bash && (← peek) = some '<' then
        advance
        set (.word n)
      else set (.text n (← accept '-'))
    | some '&' =>
      advance
      set (.duplicate n)
    | some '>' =>
      advance
      set (.file n .both)
    | _ => set (.file n .read)
  else
    advance
    let n := stream.getD 1
    match ← peek with
    | some '>' =>
      advance
      set (.file n .append)
    | some '|' =>
      advance
      set (.file n .overwrite)
    | some '&' =>
      advance
      set (.duplicate n)
    | _ => set (.file n .write)

def decimalValue (s : Text) : Nat := s.foldl (fun n c => 10 * n + (c.toNat - 48)) 0

def isArrow (c : Option Char) : Bool := c = some '<' || c = some '>'

/-- The name between the braces that a text is. -/
def bracedName? (w : Word) : Option Text :=
  match w with
  | [.plain ('\x7b' :: t)] =>
    if t.getLast? = some '\x7d' && isName t.dropLast then some t.dropLast else none
  | _ => none

/-- Reads a token, in front of which no blanks stand. -/
def rawToken (g : Nested) : Reads Token := do
  let s ← get
  match ← peek with
  | none => return .ending
  | some c =>
    let next := (s.rest.drop 1).head?
    if c = '\n' then
      advance
      return .newline
    else if c = '&' then
      advance
      if s.bash && next = some '>' then
        advance
        let append ← accept '>'
        modify fun s => { s with opening := .all append }
        return .redirect
      else if ← accept '&' then return .mark "&&" else return .mark "&"
    else if c = '|' then
      advance
      if ← accept '|' then return .mark "||"
      else if s.bash && (← peek) = some '&' then
        advance
        return .mark "|&"
      else return .mark "|"
    else if c = ';' then
      advance
      if ← accept ';' then (if s.bash then markFrom ";;" ["&"] else return .mark ";;")
      else if s.bash && (← peek) = some '&' then
        advance
        return .mark ";&"
      else return .mark ";"
    else if c = '(' then
      advance
      return .mark "("
    else if c = ')' then
      advance
      return .mark ")"
    else
      let digits := s.rest.takeWhile Char.isDigit
      let isChannel := s.bash && digits = [] && next = some '('
      if digits.length ≤ (if s.bash then 4 else 1) && isArrow (s.rest.drop digits.length).head? &&
          !isChannel then
        modify fun s => { s with rest := s.rest.drop digits.length, streamName := none }
        redirection (if digits = [] then none else some (decimalValue digits))
      else
        let w ← parts g .top (← fuel) 0 []
        let t ← get
        match if s.bash && isArrow t.rest.head? then bracedName? w else none with
        | some name =>
          let r ← redirection none
          modify fun s => { s with streamName := some name }
          return r
        | none =>
          modify fun s => { s with word := w }
          return .word

/-- The rows up to one that ends a text inside a script. Where the text is not quoted, a row
goes on behind a backslash at its end. -/
def bodyRows (p : Pending) : Nat → Bool → Reads Text
  | 0, _ => return []
  | n + 1, joined => do
    let s ← get
    if s.rest = [] then
      if s.bash then
        let m := "warning: here-document at line ".toList ++ Raw.ofNat p.line ++
          " delimited by end-of-file (wanted \x60".toList ++ p.last ++ "')".toList
        set { s with warnings := (s.line - 1, m) :: s.warnings }
      return []
    if p.indented && !joined then
      let _ ← takeWhile (· = '\t')
    let row ← takeWhile (· ≠ '\n')
    let ended := (← get).rest = []
    advance
    if row = p.last && !joined then return []
    let slashes := (row.reverse.takeWhile (· = '\\')).length
    let more ← bodyRows p n (!p.quoted && slashes % 2 = 1)
    return row ++ (if ended then [] else ['\n']) ++ more

/-- The parts of a text in a script. In bash a fault in it shows only when it is needed. -/
def hereText (g : Nested) (t : Text) : Reads Word := fun s =>
  match within t (do parts g .text (← fuel) 0 []) s with
  | .ok r => .ok r
  | .error e =>
    if s.bash then .ok ([.output [.faulty e.line e.first e.message []] true], s) else .error e

/-- Reads the texts that begin on this line. -/
def readBodies (g : Nested) : List Pending → Reads Unit
  | [] => return
  | p :: ps => do
    let text ← bodyRows p (← fuel) false
    let body ←
      if p.quoted then pure [Part.exact text]
      else hereText g text
    modify fun s => { s with bodies := (p.number, body) :: s.bodies }
    readBodies g ps

def bodies (g : Nested) : Reads Unit := do
  let ps := (← get).pending
  modify fun s => { s with pending := [] }
  readBodies g ps

/-- The token read last again, or a new one. -/
def nextToken (g : Nested) : Reads Token := do
  let s ← get
  if s.again then
    set { s with again := false }
    return s.last
  else
    skipBlanks (← fuel)
    let before ← get
    let t ← rawToken g
    modify fun s => { s with last := t, text := passed before s, textBefore := before.text }
    return t

def skipNewlines (g : Nested) : Nat → Token → Reads Token
  | 0, t => return t
  | n + 1, t => do
    if t = .newline then
      bodies g
      modify fun s => { s with checks := {} }
      skipNewlines g n (← nextToken g)
    else return t

/-- The other text of a name, unless it is being read already. -/
def aliasOf (s : Source) (name : Text) : Option Text :=
  if s.inside.any fun i => i.1 = name && i.2 ≤ s.rest.length then none else s.aliases.lookup name

/-- Whether the end of another text of a name was passed that has a blank there: the next word
is looked up, too. -/
def hasPassed (before after : Source) : Bool :=
  before.inside.any fun (name, k) =>
    k < before.rest.length && after.rest.length < k &&
      (((before.aliases.lookup name).bind List.getLast?).map isBlank).getD false

/-- Reads a token with the checks that were asked for. -/
def tokenIn (g : Nested) : Nat → Reads Token
  | 0 => return .ending
  | n + 1 => do
    let start ← get
    let checks := start.checks
    let t ← nextToken g
    let t ← if checks.newlines then skipNewlines g (← fuel) t else pure t
    modify fun s => { s with checks := {} }
    let s ← get
    let checks := if hasPassed start s then { checks with aliases := true } else checks
    match if t = .word then Word.literal? s.word else none with
    | none => return t
    | some w =>
      let known := if s.bash then keywords ++ bashKeywords else keywords
      match if checks.keywords then known.find? fun k => k.toList = w else none with
      | some k =>
        set { s with last := .keyword k }
        return .keyword k
      | none =>
        match if checks.aliases then aliasOf s w else none with
        | none => return t
        | some text =>
          set { s with
            rest := text ++ s.rest, checks := checks
            inside := (w, s.rest.length) :: s.inside.filter fun i => i.2 ≤ s.rest.length }
          tokenIn g n

def token (g : Nested) : Reads Token := do tokenIn g (← fuel)

def repeatToken : Reads Unit := modify fun s => { s with again := true }

def checkFor (c : Checks) : Reads Unit := modify fun s => { s with checks := c }

def commandChecks : Checks := { keywords := true, aliases := true }

def openChecks : Checks := { newlines := true, keywords := true, aliases := true }

/-- The line of the last token. -/
def Source.tokenLine (s : Source) : Nat := if s.last = .newline then s.line - 1 else s.line

/-- The last token as bash names it. -/
def Source.tokenText (s : Source) : Text := if s.last = .newline then "newline".toList else s.text

def inQuotes (t : Text) : Text := '\x60' :: t ++ ['\'']

def endOfFile : Text := "syntax error: unexpected end of file".toList

/-- The fault that the token read last is not the wanted one. -/
def unexpected {α : Type} (wanted : Option Token) : Reads α := do
  let s ← get
  let more := (wanted.map fun t => " (expecting ".toList ++ t.name ++ [')']).getD []
  if s.bash then
    if s.last = .ending then fail endOfFile
    else
      throw ⟨s.tokenLine, "syntax error near unexpected token ".toList ++ inQuotes s.tokenText, none⟩
  else fail (s.last.name ++ " unexpected".toList ++ more)

def expect (g : Nested) (t : Token) : Reads Unit := do
  if (← token g) ≠ t then unexpected (some t)

/-! ### redirections -/

/-- Reads the word of a redirection. -/
def redirectWord (g : Nested) : Reads Redirect := do
  let start ← get
  let o := start.opening
  let named := fun (r : Redirect) =>
    match start.streamName with
    | some n => .named n r
    | none => r
  match o with
  | .text stream indented =>
    checkFor { mark := true }
    if (← token g) ≠ .word then unexpected none
    let s ← get
    let quoted := s.word.any fun
      | .exact _ => true
      | _ => false
    let p : Pending := ⟨s.nextBody, Word.stripped s.word, quoted, indented, s.line⟩
    set { s with pending := s.pending ++ [p], nextBody := s.nextBody + 1 }
    return named (.text stream p.number)
  | _ =>
    if (← token g) ≠ .word then unexpected none
    let s ← get
    return named (match o with
      | .file stream way => .file stream way s.word s.text
      | .duplicate stream => .duplicate stream s.word s.text
      | .all append => .all append s.word s.text
      | .word stream | .text stream _ => .word stream s.word)

/-- The redirections behind a command of several parts. -/
def redirects (g : Nested) : Nat → Reads (List Redirect)
  | 0 => return []
  | n + 1 => do
    if (← token g) = .redirect then
      let r ← redirectWord g
      return r :: (← redirects g n)
    else
      repeatToken
      return []

/-! ### simple commands -/

/-- Cuts parts behind a subscript, where its bracket and an equals sign stand, perhaps with a plus
sign between them. -/
def cutSubscript : List Part → Option (Word × Bool × Word)
  | [] => none
  | .plain s :: ps =>
    let plain := Text.cut? "]=".toList s
    let added := Text.cut? "]+=".toList s
    let rest := fun (b : Text) => (if b = [] then [] else [Part.plain b]) ++ ps
    match plain, added with
    | some (a, b), none => some ([.plain a], false, rest b)
    | none, some (a, b) => some ([.plain a], true, rest b)
    | some (a, b), some (c, d) =>
      if a.length < c.length then some ([.plain a], false, rest b) else some ([.plain c], true, rest d)
    | none, none => (cutSubscript ps).map fun (i, r) => (.plain s :: i, r)
  | p :: ps => (cutSubscript ps).map fun (i, r) => (p :: i, r)

/-- The setting that a word is, if it begins with a name and an equals sign. -/
def Word.setting? (bash : Bool) : Word → Option Setting
  | .plain s :: ps =>
    let name := s.takeWhile isNameChar
    let value := fun (v : Text) => (if v = [] then [] else [Part.plain v]) ++ ps
    if !isName name then none
    else
      match s.drop name.length with
      | '=' :: v => some (.scalar name false (value v))
      | '+' :: '=' :: v => if bash then some (.scalar name true (value v)) else none
      | '[' :: t =>
        if bash then
          (cutSubscript (.plain t :: ps)).map fun (i, append, w) => .element name i append w
        else none
      | _ => none
  | _ => none

/-- The words of an array up to its closing parenthesis, of which the opening one comes next. -/
def arrayWords (g : Nested) : Nat → Reads (List Word)
  | 0 => return []
  | n + 1 => do
    match ← token g with
    | .newline => arrayWords g n
    | .word =>
      let w := (← get).word
      return w :: (← arrayWords g n)
    | .mark ")" => return []
    | .ending => throw ⟨(← get).line, unmatched ')', none⟩
    | _ => unexpected none

/-- The name in front of the equals sign that ends a word, and whether a plus sign stands there,
too. -/
def arrayName? (w : Word) : Option (Text × Bool) :=
  match w with
  | [.plain s] =>
    if s.getLast? ≠ some '=' then none
    else
      let name := s.dropLast
      if name.getLast? = some '+' then (if isName name.dropLast then some (name.dropLast, true) else none)
      else if isName name then some (name, false) else none
  | _ => none

/-- Names that no function may have. -/
def specialNames : List String :=
  [".", ":", "break", "continue", "eval", "exec", "exit", "export", "readonly", "return", "set",
    "shift", "times", "trap", "unset"]

/-- What is read of a simple command so far, all lists with the last item first. -/
structure Simple where
  settings : List Setting := []
  words : List Word := []
  redirects : List Redirect := []

def Simple.command (s : Simple) (line : Nat) : Command :=
  .simple line s.settings.reverse s.words.reverse s.redirects.reverse

/-- The body of a function, which in bash is a command of several parts. -/
def functionBody (r : Rules) (name : Text) : Reads Command := do
  checkFor openChecks
  let line := (← get).line
  if (← get).bash then
    match ← token r.nested with
    | .keyword _ | .mark "(" => repeatToken
    | _ => unexpected none
  return .define line name (← r.command)

/-- Names of commands behind which a word may hold a whole array. -/
def listTakers : List String := ["alias", "declare", "export", "local", "readonly", "typeset"]

def takesList (words : List Word) : Bool :=
  (words.getLast?.bind Word.literal?).any fun t => listTakers.any fun n => n.toList = t

def simpleFrom (r : Rules) (line : Nat) : Nat → Simple → Reads Command
  | 0, s => return s.command line
  | n + 1, s => do
    checkFor { aliases := s.words.isEmpty }
    match ← token r.nested with
    | .word =>
      let src ← get
      let isArray := src.bash && src.rest.head? = some '(' && (s.words.isEmpty || takesList s.words)
      match if isArray then arrayName? src.word else none with
      | some (name, append) =>
        advance
        let ws ← arrayWords r.nested (← fuel)
        if s.words.isEmpty then
          simpleFrom r line n { s with settings := .array name append ws :: s.settings }
        else simpleFrom r line n { s with words := (src.word ++ [.list ws]) :: s.words }
      | none =>
        match if s.words.isEmpty then Word.setting? src.bash src.word else none with
        | some v => simpleFrom r line n { s with settings := v :: s.settings }
        | none => simpleFrom r line n { s with words := src.word :: s.words }
    | .redirect =>
      let d ← redirectWord r.nested
      simpleFrom r line n { s with redirects := d :: s.redirects }
    | .mark "(" =>
      match s with
      | ⟨[], [w], []⟩ =>
        let bash := (← get).bash
        if bash && (Word.setting? true w).isSome then unexpected none
        let written := (← get).textBefore
        expect r.nested (.mark ")")
        match Word.literal? w with
        | none => if bash then functionBody r written else failWith "Bad function name"
        | some name =>
          if bash then functionBody r name
          else if !isName name || specialNames.any (fun b => b.toList = name) then
            failWith "Bad function name"
          else functionBody r name
      | _ =>
        repeatToken
        return s.command line
    | _ =>
      repeatToken
      return s.command line

/-! ### compound commands -/

def ofList : List Command → Command
  | [c] => c
  | cs => .sequence cs

/-- The branches of a choice behind its first word. -/
def choiceFrom (r : Rules) : Nat → Reads Command
  | 0 => return default
  | n + 1 => do
    let test ← r.some
    expect r.nested (.keyword "then")
    let yes ← r.some
    match ← token r.nested with
    | .keyword "elif" => return .choice (ofList test) (ofList yes) (← choiceFrom r n)
    | .keyword "else" => return .choice (ofList test) (ofList yes) (ofList (← r.some))
    | _ =>
      repeatToken
      return .choice (ofList test) (ofList yes) (.sequence [])

def loopWords (g : Nested) : Nat → Reads (List Word)
  | 0 => return []
  | n + 1 => do
    if (← token g) = .word then
      let w := (← get).word
      return w :: (← loopWords g n)
    else return []

def allParameters : Word := [.parameter ['@'] .none true]

/-- A body between two keywords, or between braces. -/
def loopBody (r : Rules) : Reads (List Command) := do
  checkFor openChecks
  let t ← token r.nested
  if (← get).bash && t = .keyword "\x7b" then
    let b ← r.some
    expect r.nested (.keyword "\x7d")
    return b
  else if t = .keyword "do" then
    let b ← r.some
    expect r.nested (.keyword "done")
    return b
  else unexpected (some (.keyword "do"))

/-- The pieces of a list of parts between semicolons. -/
def splitParts : List Part → List (List Part)
  | [] => [[]]
  | .exact s :: ps =>
    match Text.splitAt ';' s, splitParts ps with
    | [], more => more
    | [a], first :: more => (.exact a :: first) :: more
    | a :: as, first :: more =>
      [.exact a] :: (as.dropLast.map fun b => [.exact b]) ++ (.exact (as.getLast?.getD []) :: first) :: more
    | as, [] => as.map fun a => [.exact a]
  | p :: ps =>
    match splitParts ps with
    | first :: more => (p :: first) :: more
    | [] => [[p]]

/-- The three parts of a loop that counts, up to the two parentheses that close them. -/
def countedParts (g : Nested) : Reads (Word × Word × Word) := do
  let start ← get
  let all ← enclosed ')' (parts g .sum (← fuel) 0 [])
  match splitParts all with
  | [a, b, c] => return (a, b, c)
  | _ =>
    throw ⟨start.line, "syntax error: ".toList ++
      inQuotes ('(' :: '(' :: passed start (← get)),
      some (start.line, "syntax error: arithmetic expression required".toList)⟩

/-- The name and the words of a loop over texts. -/
def eachHead (r : Rules) : Reads (Text × List Word) := do
  let bash := (← get).bash
  if (← token r.nested) ≠ .word then
    if bash then unexpected none else failWith "Bad for loop variable"
  let s ← get
  let name := (Word.literal? s.word).getD (if bash then s.text else [])
  if !bash && !isName name then failWith "Bad for loop variable"
  checkFor openChecks
  let words ←
    if (← token r.nested) = .keyword "in" then do
      let ws ← loopWords r.nested (← fuel)
      let t := (← get).last
      if t ≠ .newline && t ≠ .mark ";" then unexpected none
      if t = .newline then bodies r.nested
      pure ws
    else do
      if (← get).last ≠ .mark ";" then repeatToken
      pure [allParameters]
  return (name, words)

def eachFrom (r : Rules) (line : Nat) : Reads Command := do
  let s ← get
  if s.bash && (s.rest.dropWhile isBlank).take 2 = "((".toList then
    modify fun s => { s with rest := (s.rest.dropWhile isBlank).drop 2 }
    let (a, b, c) ← countedParts r.nested
    checkFor commandChecks
    if (← token r.nested) ≠ .mark ";" then repeatToken
    return .counted line a b c (ofList (← loopBody r))
  let (name, words) ← eachHead r
  return .each line name words (ofList (← loopBody r))

/-- The patterns of a case, of which the first one is read. -/
def patternsFrom (g : Nested) : Nat → Reads (List Word)
  | 0 => return []
  | n + 1 => do
    let w := (← get).word
    if (← token g) = .mark "|" then
      let _ ← token g
      return w :: (← patternsFrom g n)
    else return [w]

def casesFrom (r : Rules) : Nat → Reads (List (List Word × Command × Char))
  | 0 => return []
  | n + 1 => do
    checkFor { newlines := true, keywords := true }
    if (← token r.nested) = .keyword "esac" then return []
    if (← get).last = .mark "(" then
      let _ ← token r.nested
    let ps ← patternsFrom r.nested (← fuel)
    if (← get).last ≠ .mark ")" then unexpected (some (.mark ")"))
    let body ← r.any
    checkFor { newlines := true, keywords := true }
    match ← token r.nested with
    | .keyword "esac" => return [(ps, ofList body, ';')]
    | .mark ";;" => return (ps, ofList body, ';') :: (← casesFrom r n)
    | .mark ";&" => return (ps, ofList body, '&') :: (← casesFrom r n)
    | .mark ";;&" => return (ps, ofList body, '*') :: (← casesFrom r n)
    | _ => unexpected (some (.mark ";;"))

def branchFrom (r : Rules) (line : Nat) : Reads Command := do
  if (← token r.nested) ≠ .word then unexpected (some .word)
  let w := (← get).word
  checkFor openChecks
  expect r.nested (.keyword "in")
  return .branch line w (← casesFrom r (← fuel))

/-! ### conditions -/

def unaryTests : List String :=
  ["-e", "-f", "-d", "-h", "-L", "-r", "-w", "-x", "-s", "-z", "-n", "-p", "-b", "-c", "-S", "-t",
    "-v", "-a", "-o"]

def binaryTests : List String :=
  ["=", "==", "!=", "-eq", "-ne", "-lt", "-le", "-gt", "-ge", "=~", "-nt", "-ot", "-ef"]

/-- A word in which parentheses and bars stand for themselves. -/
def expressionWord (g : Nested) : Nat → Nat → Reads Word
  | 0, _ => return []
  | n + 1, depth => do
    match ← peek with
    | none => return []
    | some c =>
      if c = '(' then
        advance
        return .plain [c] :: (← expressionWord g n (depth + 1))
      else if c = ')' && depth ≠ 0 then
        advance
        return .plain [c] :: (← expressionWord g n (depth - 1))
      else if (c = '|' && (depth ≠ 0 || ((← get).rest.drop 1).head? ≠ some '|')) ||
          (c = ' ' && depth ≠ 0) then
        advance
        return .plain [c] :: (← expressionWord g n depth)
      else if endsWord c then return []
      else
        let ps ← parts g .top (← fuel) 0 []
        return ps ++ (← expressionWord g n depth)

def literalIn (names : List String) (w : Word) : Option Text :=
  (Word.literal? w).bind fun t => if names.any fun n => n.toList = t then some t else none

/-- A fault in a condition, of which more may be known. -/
def conditionFault {α : Type} (why : Option Text) : Reads α := do
  let s ← get
  let near := if s.last = .newline then s.textBefore else s.text
  throw ⟨s.tokenLine, "syntax error near ".toList ++ inQuotes near, why.map (s.tokenLine, ·)⟩

/-- A fault that names the last token, with words in front of it and behind it. -/
def conditionFaultAt {α : Type} (front behind : String) : Reads α := do
  conditionFault (some (front.toList ++ inQuotes (← get).tokenText ++ behind.toList))

/-- Whether the last token ends a condition. -/
def atConditionEnd : Reads Bool := do
  let s ← get
  return s.last = .word && s.text = "]]".toList

def conditionToken (g : Nested) : Reads Token := do
  checkFor { newlines := true, keywords := true }
  token g

mutual

def orCondition (g : Nested) : Nat → Reads Condition
  | 0 => unexpected none
  | n + 1 => do
    let a ← andCondition g n
    if (← conditionToken g) = .mark "||" then return .disjunction a (← orCondition g n)
    else
      repeatToken
      return a

def andCondition (g : Nested) : Nat → Reads Condition
  | 0 => unexpected none
  | n + 1 => do
    let a ← oneCondition g n
    if (← conditionToken g) = .mark "&&" then return .conjunction a (← andCondition g n)
    else
      repeatToken
      return a

def oneCondition (g : Nested) : Nat → Reads Condition
  | 0 => unexpected none
  | n + 1 => do
    match ← conditionToken g with
    | .keyword "!" => return .negation (← oneCondition g n)
    | .mark "(" =>
      let c ← orCondition g n
      if (← conditionToken g) ≠ .mark ")" then conditionFaultAt "unexpected token " ", expected \x60)'"
      return c
    | .word | .keyword _ =>
      let a := (← get).word
      if ← atConditionEnd then conditionFault none
      match literalIn unaryTests a with
      | some op =>
        let t ← token g
        if t = .word && !(← atConditionEnd) then return .unary op (← get).word
        else conditionFaultAt "unexpected argument " " to conditional unary operator"
      | none => operator g a
    | .ending => fail endOfFile
    | _ => conditionFaultAt "unexpected token " " in conditional command"
where
  /-- What stands behind the first word of a test. -/
  operator (g : Nested) (a : Word) : Reads Condition := do
    match ← token g with
    | .word =>
      if ← atConditionEnd then
        repeatToken
        return .word a
      match literalIn binaryTests (← get).word with
      | none => conditionFault (some "conditional binary operator expected".toList)
      | some op =>
        if op = "=~".toList then
          skipBlanks (← fuel)
          return .binary op a (← expressionWord g (← fuel) 0)
        else second g op a
    | .redirect =>
      let op : Text :=
        match (← get).opening with
        | .file _ .read => ['<']
        | _ => ['>']
      second g op a
    | .mark "&&" | .mark "||" | .mark ")" =>
      repeatToken
      return .word a
    | _ => conditionFaultAt "unexpected token " ", conditional binary operator expected"
  second (g : Nested) (op : Text) (a : Word) : Reads Condition := do
    let t ← token g
    if t = .word && !(← atConditionEnd) then return .binary op a (← get).word
    else conditionFaultAt "unexpected argument " " to conditional binary operator"

end

/-- A condition up to the brackets that close it. -/
def conditionFrom (g : Nested) : Reads Condition := do
  let start ← get
  set { start with testing := true }
  let c ← orCondition g (← fuel)
  let t ← conditionToken g
  if !(← atConditionEnd) then
    match t with
    | .ending => throw ⟨(← get).line, endOfFile,
        some (start.line, "unexpected EOF while looking for \x60]]'".toList)⟩
    | .word => conditionFault (some "syntax error in conditional expression".toList)
    | _ => conditionFaultAt "syntax error in conditional expression: unexpected token " ""
  modify fun s => { s with testing := start.testing }
  return c

/-! ### all commands -/

def withRedirects (r : Rules) (c : Command) (line : Nat) : Reads Command := do
  checkFor commandChecks
  match ← redirects r.nested (← fuel) with
  | [] => return c
  | rs =>
    match c with
    | .subshell l b _ => return .subshell l b rs
    | c => return .redirected line c rs

/-- A command that runs beside the shell. A name for it may stand only before a command of several
parts. -/
def coprocessFrom (r : Rules) (line : Nat) : Reads Command := do
  checkFor commandChecks
  let usual := "COPROC".toList
  match ← token r.nested with
  | .word =>
    let s ← get
    let rest := s.rest.dropWhile isBlank
    if rest.head? = some '(' || Text.startsWith rest "\x7b ".toList then
      return .coprocess line (Word.stripped s.word) (← r.command)
    else
      repeatToken
      return .coprocess line usual (← r.command)
  | .newline | .ending => unexpected none
  | _ =>
    repeatToken
    return .coprocess line usual (← r.command)

/-- Reads a command, of which no token is read. -/
def commandFrom (r : Rules) : Reads Command := do
  let line := (← get).line
  let g := r.nested
  let closed := fun (c : Command) (t : Token) => do
    expect g t
    withRedirects r c line
  match ← token g with
  | .keyword "if" => closed (← choiceFrom r (← fuel)) (.keyword "fi")
  | .keyword "while" =>
    let test ← r.some
    expect g (.keyword "do")
    closed (.loop true (ofList test) (ofList (← r.some))) (.keyword "done")
  | .keyword "until" =>
    let test ← r.some
    expect g (.keyword "do")
    closed (.loop false (ofList test) (ofList (← r.some))) (.keyword "done")
  | .keyword "for" => withRedirects r (← eachFrom r line) line
  | .keyword "case" => withRedirects r (← branchFrom r line) line
  | .keyword "\x7b" => closed (ofList (← r.some)) (.keyword "\x7d")
  | .keyword "[[" => withRedirects r (.condition line (← conditionFrom g)) line
  | .keyword "select" =>
    let (name, words) ← eachHead r
    withRedirects r (.menu line name words (ofList (← loopBody r))) line
  | .keyword "coproc" => coprocessFrom r line
  | .keyword "function" =>
    if (← token g) ≠ .word then unexpected none
    let name := Word.stripped (← get).word
    checkFor openChecks
    if (← token g) = .mark "(" then
      if (← get).rest.dropWhile isBlank |>.head? |>.any (· = ')') then expect g (.mark ")")
      else repeatToken
    else repeatToken
    functionBody r name
  | .mark "(" =>
    let s ← get
    if s.bash && s.rest.head? = some '(' then
      advance
      withRedirects r (.arithmetic line (← enclosed ')' (parts g .sum (← fuel) 0 []))) line
    else
      let b ← r.some
      closed (.subshell line (ofList b) []) (.mark ")")
  | .word | .redirect =>
    repeatToken
    simpleFrom r line (← fuel) {}
  | _ => unexpected none

/-- The commands behind a pipe; the one in front of it may get its errors into the pipe, too. -/
def pipeRest (r : Rules) : Nat → Command → Reads (Command × List Command)
  | 0, before => return (before, [])
  | n + 1, before => do
    let t ← token r.nested
    if t = .mark "|" || t = .mark "|&" then
      checkFor openChecks
      let c ← r.command
      let (first, rest) ← pipeRest r n c
      let last := if t = .mark "|&" then
          Command.redirected 0 before [.duplicate 2 [.plain ['1']] []]
        else before
      return (last, first :: rest)
    else
      repeatToken
      return (before, [])

/-- Whether the token read last ends a pipe before it has begun. -/
def isEmptyPipe : Token → Bool
  | .newline | .mark ";" | .ending => true
  | _ => false

/-- Commands joined by pipes. In bash words may stand in front that turn the status around, again
and again, or that ask for the time, and behind them nothing has to stand. -/
def pipelineFrom (r : Rules) : Nat → Reads Command
  | 0 => return default
  | n + 1 => do
    let t ← token r.nested
    let bash := (← get).bash
    if t = .keyword "!" then
      checkFor commandChecks
      if bash then
        let t ← token r.nested
        repeatToken
        if isEmptyPipe t then return .negated (.sequence [])
        return .negated (← pipelineFrom r n)
      else return .negated (← plain r)
    else if t = .keyword "time" then
      checkFor commandChecks
      let t ← token r.nested
      let brief := t = .word && (← get).text = "-p".toList
      let t ← if brief then do
          checkFor commandChecks
          token r.nested
        else pure t
      repeatToken
      if isEmptyPipe t then return .timed brief (.sequence [])
      return .timed brief (← pipelineFrom r n)
    else
      repeatToken
      plain r
where
  plain (r : Rules) : Reads Command := do
    let line := (← get).line
    let c ← r.command
    let (c, cs) ← pipeRest r (← fuel) c
    return if cs.isEmpty then c else .pipe line (c :: cs)

def pipeline (r : Rules) : Reads Command := do pipelineFrom r (← fuel)

def andOrRest (r : Rules) : Nat → Command → Reads Command
  | 0, c => return c
  | n + 1, c => do
    match ← token r.nested with
    | .mark "&&" =>
      checkFor openChecks
      andOrRest r n (.both c (← pipeline r))
    | .mark "||" =>
      checkFor openChecks
      andOrRest r n (.either c (← pipeline r))
    | _ =>
      repeatToken
      return c

def andOr (r : Rules) : Reads Command := do
  let c ← pipeline r
  andOrRest r (← fuel) c

/-- Tokens at which a list of commands ends. -/
def endsList : Token → Bool
  | .ending | .mark ")" | .mark ";;" | .mark ";&" | .mark ";;&" => true
  | .keyword k =>
    ["do", "done", "elif", "else", "esac", "fi", "then", "\x7d"].contains k
  | _ => false

/-- How far a list of commands goes: to the end of its line, or over several lines, and whether
it may be empty. -/
inductive Extent where
  | line
  | some
  | any
deriving DecidableEq

def listFrom (r : Rules) (e : Extent) : Nat → Bool → List Command → Reads (List Command)
  | 0, _, acc => return acc.reverse
  | n + 1, first, acc => do
    checkFor { openChecks with newlines := e ≠ .line }
    let t ← token r.nested
    match t with
    | .newline =>
      bodies r.nested
      return acc.reverse
    | .ending =>
      repeatToken
      return acc.reverse
    | _ =>
      repeatToken
      if (e = .any || (e = .some && !first)) && endsList t then return acc.reverse
      let c ← andOr r
      match ← token r.nested with
      | .ending =>
        repeatToken
        return (c :: acc).reverse
      | .newline =>
        repeatToken
        listFrom r e n false (c :: acc)
      | .mark "&" => listFrom r e n false (.background c :: acc)
      | .mark ";" => listFrom r e n false (c :: acc)
      | _ =>
        if e = .line then unexpected none
        repeatToken
        return (c :: acc).reverse

/-- A list of commands up to a closing parenthesis. Texts that begin behind it are empty. -/
def closedList (r : Rules) : Reads (List Command) := do
  let before := (← get).pending
  modify fun s => { s with pending := [], checks := {}, again := false }
  let cs ← tryCatch (do
      let cs ← r.any
      expect r.nested (.mark ")")
      return cs) fun e =>
    throw (if e.message = endOfFile then { e with message := unmatched ')' } else e)
  modify fun s => { s with
    bodies := (s.pending.map fun p => (p.number, [])) ++ s.bodies, pending := before }
  return cs

/-- The rules for commands that are nested at most so deep. -/
def rules : Nat → Rules
  | 0 =>
    { some := unexpected none, any := unexpected none, command := unexpected none
      nested :=
        { closed := unexpected none, whole := unexpected none, setting := fun _ => return none } }
  | n + 1 =>
    { some := do listFrom (rules n) .some (← fuel) true []
      any := do listFrom (rules n) .any (← fuel) true []
      command := do commandFrom (rules n)
      nested :=
        { closed := do closedList (rules n)
          whole := do listFrom (rules n) .any (← fuel) true []
          setting := fun _ => return none } }

def depth : Nat := 400

/-- A text as a word of its own, in which only dollar signs and quotes mean more. -/
def wordOf? (bash : Bool) (t : Text) : Option Word :=
  let place : Place := if t.any fun c => isBlank c || endsWord c then .text else .top
  match (do parts (rules depth).nested place (← fuel) 0 [] : Reads Word).run { rest := t, bash := bash } with
  | .ok (w, _) => some w
  | .error _ => none

/-- The commands of the next line; nothing behind the last one. -/
def readLine : Reads (Option (List Command)) := do
  let r := rules depth
  modify fun s => { s with again := false, checks := {} }
  match ← token r.nested with
  | .ending => return none
  | .newline => return some []
  | _ =>
    repeatToken
    return some (← listFrom r .line (← fuel) true [])

end TestWeaver.Shell
