import TestWeaver.Decimal.Binary64
import TestWeaver.Text.Blank
import TestWeaver.Text.Digit

/-!
Reading numbers from text.

Blanks around the number are dropped, digits of any script count, and single underscores may
stand between digits. A text of ASCII characters alone has fewer blanks: the information
separators are none there.
-/

namespace TestWeaver.Decimal

def isAsciiBlank (c : Char) : Bool := c = ' ' || (0x09 ≤ c.toNat && c.toNat ≤ 0x0D)

def isAscii (c : Char) : Bool := c.toNat < 0x80

/-- One character in ASCII: blanks as spaces, digits as digits. -/
def plainChar? (c : Char) : Option Char :=
  if isAscii c then some c
  else if Text.isBlank c then some ' '
  else (Text.digit? c).map fun d => Char.ofNat (48 + d)

/-- The text in ASCII without the blanks around it. -/
def plain? (s : Text) : Option Text :=
  (s.mapM plainChar?).map fun t =>
    ((t.dropWhile isAsciiBlank).reverse.dropWhile isAsciiBlank).reverse

/-- The text without its underscores, each of which must have a digit on both sides. -/
def dropUnderscoresFrom (afterDigit : Bool) : Text → Option Text
  | [] => some []
  | c :: s =>
    if c = '_' then
      if afterDigit && (s.head?.map Char.isDigit).getD false then dropUnderscoresFrom false s
      else none
    else (dropUnderscoresFrom c.isDigit s).map (c :: ·)

def dropUnderscores? (s : Text) : Option Text := dropUnderscoresFrom false s

def sign : Text → Bool × Text
  | '-' :: s => (true, s)
  | '+' :: s => (false, s)
  | s => (false, s)

/-- The value of a string of digits. -/
def digitsValue (s : Text) : Nat := s.foldl (fun n c => 10 * n + (c.toNat - 48)) 0

/-- A text of one or more digits. -/
def nat? (s : Text) : Option Nat := if s ≠ [] && s.all Char.isDigit then some (digitsValue s) else none

/-- Integers with more digits than this are not read. -/
def maxDigits : Nat := 4300

def integer? (s : Text) : Option Int := do
  let (negative, s) := sign (← plain? s)
  let s ← dropUnderscores? s
  if maxDigits < s.length then none
  else
    let n ← nat? s
    return if negative then -(n : Int) else n

/-- The exponent at the end of a number; no text is exponent zero. -/
def exponent? : Text → Option Int
  | [] => some 0
  | c :: s =>
    if c = 'e' || c = 'E' then
      (nat? (sign s).2).map fun (n : Nat) => if (sign s).1 then -(n : Int) else n
    else none

/-- Digits with at most one point among or around them, and perhaps an exponent. -/
def magnitude? (negative : Bool) (s : Text) : Option Binary64 :=
  let whole := s.takeWhile Char.isDigit
  let s := s.dropWhile Char.isDigit
  let (fraction, s) :=
    match s with
    | '.' :: r => (r.takeWhile Char.isDigit, r.dropWhile Char.isDigit)
    | _ => ([], s)
  if whole = [] && fraction = [] then none
  else
    (exponent? s).map fun e =>
      Binary64.ofDecimal negative (digitsValue (whole ++ fraction)) (e - fraction.length)

def number? (s : Text) : Option Binary64 := do
  let (negative, s) := sign (← dropUnderscores? (← plain? s))
  let word := String.ofList (s.map Char.toLower)
  if word = "inf" || word = "infinity" then return .infinite negative
  else if word = "nan" then return .nan
  else magnitude? negative s

end TestWeaver.Decimal
