import TestWeaver.Decimal.Directive
import TestWeaver.Utility.Escape

/-!
Printing arguments by a format. The format is used again as long as arguments are left.
-/

namespace TestWeaver.Utility

open Decimal (Directive Real)

structure Printed where
  /-- The last piece first. -/
  pieces : List Text := []
  complaints : List Text := []
  failed : Bool := false
  args : List Text := []
  used : Bool := false
  stopped : Bool := false
  /-- What ends the printing altogether. -/
  fault : Option Text := none
  /-- What a time looks like by a format. -/
  moment : Text → Int → Text := fun _ _ => []

namespace Printed

def text (p : Printed) : Text := p.pieces.reverse.flatten

def add (p : Printed) (t : Text) : Printed := { p with pieces := t :: p.pieces }

def complain (p : Printed) (m : Text) (failed : Bool := true) : Printed :=
  { p with complaints := p.complaints ++ [m], failed := p.failed || failed }

def takeArg (p : Printed) : Option Text × Printed :=
  match p.args with
  | [] => (none, { p with used := true })
  | a :: as => (some a, { p with args := as, used := true })

def fail (p : Printed) (m : Text) : Printed := { p with fault := some m, failed := true }

end Printed

/-- A text in the quotes of programs' complaints. -/
def curly (t : Text) : Text := Raw.ofText ['‘'] ++ t ++ Raw.ofText ['’']

def outOfRange : Text := "Numerical result out of range".toList

/-- What is wrong with an argument that should be a number. -/
inductive NumberFault where
  | none
  | noNumber
  | moreText
  | range
deriving DecidableEq

def complaintOf (f : Flavour) (arg : Text) : NumberFault → Option (Text × Bool)
  | .none => Option.none
  | .noNumber =>
    some (match f with
      | .plain => arg ++ ": expected numeric value".toList
      | .bash => arg ++ ": invalid number".toList
      | .tool => curly arg ++ ": expected a numeric value".toList, true)
  | .moreText =>
    some (match f with
      | .plain => arg ++ ": not completely converted".toList
      | .bash => arg ++ ": invalid number".toList
      | .tool => curly arg ++ ": value not completely converted".toList, true)
  | .range =>
    some (match f with
      | .plain => arg ++ ": ".toList ++ outOfRange
      | .bash => "warning: ".toList ++ arg ++ ": ".toList ++ outOfRange
      | .tool => curly arg ++ ": ".toList ++ outOfRange, f ≠ .bash)

/-- A number in front of a text as C reads it, and what follows; nothing if there is none. -/
def leadingInt? (s : Text) : Option (Int × Text) :=
  let t := s.dropWhile Real.isBlank
  let (negative, t) : Bool × Text :=
    match t with
    | '-' :: r => (true, r)
    | '+' :: r => (false, r)
    | r => (false, r)
  let read := fun (base : Nat) (isDigit : Char → Bool) (u : Text) =>
    let ds := u.takeWhile isDigit
    (Real.natIn base ds, u.drop ds.length)
  let found : Option (Nat × Text) :=
    match t with
    | '0' :: x :: d :: r =>
      if x.toLower = 'x' && Real.isHexDigit d then some (read 16 Real.isHexDigit (d :: r))
      else some (read 8 isOctalDigit t)
    | '0' :: _ => some (read 8 isOctalDigit t)
    | c :: _ => if c.isDigit then some (read 10 Char.isDigit t) else none
    | [] => none
  found.map fun (n, rest) => (if negative then -(n : Int) else n, rest)

def greatestInt : Int := 9223372036854775807

def allBits : Int := 18446744073709551616

/-- The character behind a quote, which counts as its number. -/
def quotedChar? (f : Flavour) (arg : Text) : Option (Nat × Text) :=
  match arg with
  | q :: r =>
    if q = '\'' || q = '"' then
      if f = .plain then some ((r.head?.map Char.toNat).getD 0, [])
      else
        match r with
        | [] => some (0, [])
        | c :: t =>
          let more := if 0xC0 ≤ c.toNat then t.takeWhile fun d => 0x80 ≤ d.toNat && d.toNat < 0xC0 else []
          let n := ((Raw.toText (c :: more)).head?.map Char.toNat).getD c.toNat
          some (n, if f = .bash then [] else t.drop more.length)
    else none
  | [] => none

/-- An argument as a whole number, with or without a sign. -/
def intArg (f : Flavour) (signed : Bool) (arg : Text) : Int × NumberFault :=
  match quotedChar? f arg with
  | some (n, _) => (n, .none)
  | none =>
    match leadingInt? arg with
    | none => (0, if arg = [] then .none else .noNumber)
    | some (n, rest) =>
      let least : Int := if signed then -greatestInt - 1 else 1 - allBits
      let most : Int := if signed then greatestInt else allBits - 1
      let (v, outside) : Int × Bool :=
        if most < n then (most, true)
        else if n < least then ((if signed then least else most), true)
        else (if signed then n else n % allBits, false)
      (v, if rest ≠ [] then .moreText else if outside then .range else .none)

def realArg (f : Flavour) (arg : Text) : Decimal.Real × NumberFault :=
  match quotedChar? f arg with
  | some (n, _) => (.ratio false n 1, .none)
  | none =>
    match Real.read? (if f = .plain then 53 else 64) arg with
    | none => (.ratio false 0 1, if arg = [] then .none else .noNumber)
    | some (x, rest) => (x, if rest ≠ [] then .moreText else .none)

def note (f : Flavour) (arg : Text) (fault : NumberFault) (p : Printed) : Printed :=
  match complaintOf f arg fault with
  | none => p
  | some (m, failed) => p.complain m failed

/-- A width or precision that an argument gives. -/
def starArg (f : Flavour) (p : Printed) : Int × Printed :=
  let (arg, p) := p.takeArg
  let a := arg.getD []
  let (n, fault) := intArg f true a
  (n, note f a fault p)

def isFlagChar (c : Char) : Bool := "#-+ 0".toList.contains c

/-- Reads flags, a width and a precision behind a percent sign. -/
def readDirective (f : Flavour) (s : Text) (p : Printed) : Directive × Text × Printed :=
  let flags := s.takeWhile isFlagChar
  let d : Directive := flags.foldl Directive.flag {}
  let s := s.drop flags.length
  let number := fun (t : Text) =>
    let ds := t.takeWhile Char.isDigit
    (Real.natIn 10 ds, t.drop ds.length)
  let (d, s, p) : Directive × Text × Printed :=
    match s with
    | '*' :: r =>
      let (n, p) := starArg f p
      (d.widen n, r, p)
    | _ =>
      let (n, r) := number s
      ({ d with width := n }, r, p)
  match s with
  | '.' :: '*' :: r =>
    let (n, p) := starArg f p
    ({ d with precision := if n < 0 then none else some n.toNat }, r, p)
  | '.' :: r =>
    let (n, r) := number r
    ({ d with precision := some n }, r, p)
  | _ => (d, s, p)

def isSafe (c : Char) : Bool := c.isAlphanum || "%+,-./:=@_".toList.contains c || 0x80 ≤ c.toNat

def isControl (c : Char) : Bool := c.toNat < 32 || c.toNat = 127

/-- A text between `$'` and `'`. -/
def ansiQuotedText (t : Text) : Text :=
  let one := fun (c : Char) =>
    match shortEscapes.find? fun e => e.2 = c with
    | some (l, _) => if l = 'e' then "\\E".toList else ['\\', l]
    | none =>
      if c = '\'' then ['\\', '\'']
      else if isControl c then
        let ds := Nat.toDigits 8 c.toNat
        '\\' :: List.replicate (3 - ds.length) '0' ++ ds
      else [c]
  "$'".toList ++ t.flatMap one ++ ['\'']

/-- A text that a shell reads as one word. -/
def quotedWord (f : Flavour) (t : Text) : Text :=
  if t = [] then "''".toList
  else if t.all isSafe && t.head? ≠ some '~' then t
  else if t.any isControl then ansiQuotedText t
  else if f = .bash then
    t.flatMap fun c => if isSafe c then [c] else ['\\', c]
  else if t.contains '\'' && !(t.any fun c => "\"$\x60\\!".toList.contains c) then '"' :: t ++ ['"']
  else '\'' :: t.flatMap (fun c => if c = '\'' then "'\\''".toList else [c]) ++ ['\'']

/-- Prints one argument by a directive. `shown` is the directive as it stands in the format. -/
def convert (f : Flavour) (d : Directive) (c : Char) (shown : Text) (p : Printed) : Printed :=
  let withInt := fun (signed : Bool) (write : Int → Text) =>
    let (arg, p) := p.takeArg
    let a := arg.getD []
    let (n, fault) := intArg f signed a
    (note f a fault p).add (write n)
  match c with
  | 'd' | 'i' => withInt true d.integer
  | 'o' | 'u' | 'x' | 'X' => withInt false fun n => d.natural c n.toNat
  | 'e' | 'E' | 'f' | 'F' | 'g' | 'G' | 'a' | 'A' =>
    let (arg, p) := p.takeArg
    let a := arg.getD []
    let (x, fault) := realArg f a
    (note f a fault p).add (d.real c x)
  | 's' =>
    let (arg, p) := p.takeArg
    p.add (d.text (arg.getD []))
  | 'c' =>
    let (arg, p) := p.takeArg
    let ch : Text :=
      match arg with
      | none => if f = .tool then [] else [Char.ofNat 0]
      | some [] => [Char.ofNat 0]
      | some (x :: _) => [x]
    p.add ({ d with precision := none }.text ch)
  | 'b' =>
    let (arg, p) := p.takeArg
    let (t, on) := unescape f .argument (arg.getD [])
    { p.add (d.text t) with stopped := !on }
  | 'q' =>
    if f = .plain then p.fail (shown ++ ": invalid directive".toList)
    else
      let (arg, p) := p.takeArg
      p.add (d.text (quotedWord f (arg.getD [])))
  | _ =>
    match f with
    | .plain => p.fail (shown ++ ": invalid directive".toList)
    | .bash => p.fail ("\x60".toList ++ [c] ++ "': invalid format character".toList)
    | .tool => p.fail (shown ++ ": invalid conversion specification".toList)

/-- Letters in front of a conversion that say how long the number is. -/
def isLength (f : Flavour) (c : Char) : Bool := f ≠ .plain && "hjlLtz".toList.contains c

/-- The format of a time, in parentheses in front of its letter. -/
def timeFormat? (s : Text) : Option (Text × Text) :=
  match s with
  | '(' :: r => Text.cut? [')', 'T'] r
  | _ => none

/-- Prints the format once. -/
def printOnce (f : Flavour) : Nat → Text → Printed → Printed
  | 0, _, p => p
  | left + 1, s, p =>
    if p.stopped || p.fault.isSome then p
    else
      match s with
      | [] => p
      | '\\' :: r =>
        match escape f .format r with
        | .text t rest => printOnce f left rest (p.add t)
        | .stop => { p with stopped := true }
        | .noDigits => p.fail "missing hexadecimal number in escape".toList
      | '%' :: '%' :: r => printOnce f left r (p.add ['%'])
      | '%' :: r =>
        let (d, rest, p) := readDirective f r p
        let rest := rest.dropWhile (isLength f)
        match if f = .bash then timeFormat? rest else none with
        | some (format, rest) =>
          let (arg, p) := p.takeArg
          let (n, fault) := match arg with
            | some a => intArg f true a
            | none => (-1, .none)
          printOnce f left rest ((note f (arg.getD []) fault p).add (d.text (p.moment format n)))
        | none =>
        match rest with
        | [] =>
          match f with
          | .plain => p.fail "missing format character".toList
          | .bash => p.fail ("\x60".toList ++ '%' :: r ++ "': missing format character".toList)
          | .tool => p.fail ('%' :: r ++ ": invalid conversion specification".toList)
        | c :: rest =>
          let shown := '%' :: r.take (r.length - rest.length)
          printOnce f left rest (convert f d c shown p)
      | _ =>
        let t := s.takeWhile fun c => c ≠ '\\' && c ≠ '%'
        printOnce f left (s.drop t.length) (p.add t)

/-- Prints the format as often as arguments are left that it uses. -/
def printAgain (f : Flavour) (format : Text) : Nat → Printed → Printed
  | 0, p => p
  | n + 1, p =>
    let before := p.args.length
    let p := printOnce f (format.length + 1) format p
    if p.stopped || p.fault.isSome || p.args = [] then p
    else if p.args.length = before then
      if f = .tool then
        p.complain ("warning: ignoring excess arguments, starting with ".toList ++
          curly (p.args.head?.getD [])) false
      else p
    else printAgain f format n p

def print (f : Flavour) (format : Text) (args : List Text)
    (moment : Text → Int → Text := fun _ _ => []) : Printed :=
  printAgain f format (args.length + 1) { args := args, moment := moment }

end TestWeaver.Utility
