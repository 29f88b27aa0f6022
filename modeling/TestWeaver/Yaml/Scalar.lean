import TestWeaver.Decimal.Notation
import TestWeaver.Text.Lowercase
import TestWeaver.Text.Quoted
import TestWeaver.Yaml.Tag
import TestWeaver.Yaml.Value

/-!
The values of scalars of each type.

A type that was asked for by its tag may not fit the text; plain scalars whose type was told by
their form can still fail, as a date without such a day does.
-/

namespace TestWeaver.Yaml.Scalar

/-! ### integers -/

/-- The mark that may stand in front of the digits in a base. -/
def baseMark (base : Nat) (c : Char) : Bool :=
  (base = 2 && (c = 'b' || c = 'B')) || (base = 8 && (c = 'o' || c = 'O')) ||
    (base = 16 && (c = 'x' || c = 'X'))

def dropBaseMark (base : Nat) : Text → Text
  | '0' :: c :: s => if baseMark base c then s else '0' :: c :: s
  | s => s

def digitIn (base : Nat) (c : Char) : Bool := isHexDigit c && hexValue c < base

/-- An integer in a base, with blanks around it. -/
def inBase? (base : Nat) (s : Text) : Option Int := do
  let (negative, s) := Decimal.sign (← Decimal.plain? s)
  let ds := dropBaseMark base s
  if ds ≠ [] && ds.all (digitIn base) then
    let n := ds.foldl (fun n c => base * n + hexValue c) 0
    some (if negative then -(n : Int) else n)
  else none

def noInteger (base : Nat) (s : Text) : Text :=
  "invalid literal for int() with base ".toList ++ Decimal.integer base ++ ": ".toList ++
    (Text.quoted s).take 200

/-- The digits that come first in a text, behind blanks and a sign. -/
def leadingDigits (s : Text) : Nat :=
  let t := s.map fun c => (Decimal.plainChar? c).getD '?'
  ((Decimal.sign (t.dropWhile Decimal.isAsciiBlank)).2.takeWhile Char.isDigit).length

/-- Too many digits are a fault of their own, whatever follows them. -/
def inBase (base : Nat) (s : Text) : Except Fault Int :=
  let count := leadingDigits s
  if base = 10 && Decimal.maxDigits < count then .error (.tooManyDigits count)
  else
    match inBase? base s with
    | none => .error (.noValue (noInteger base s))
    | some n => .ok n

/-- The number whose places, from the highest on, count sixty of the next one. -/
def sixties (places : List Int) : Int := places.foldl (fun n p => 60 * n + p) 0

def dropUnderscores (s : Text) : Text := s.filter (· ≠ '_')

/-- A number without its sign. -/
def magnitude (s : Text) : Except Fault Int :=
  match s with
  | [] => .error .emptyNumeral
  | ['0'] => .ok 0
  | '0' :: 'b' :: ds => inBase 2 ds
  | '0' :: 'x' :: ds => inBase 16 ds
  | '0' :: _ => inBase 8 s
  | _ => ((Text.splitAt ':' s).mapM (inBase 10)).map sixties

def int (s : Text) : Except Fault Int :=
  let (negative, s) := Decimal.sign (dropUnderscores s)
  (magnitude s).map fun n => if negative then -n else n

/-! ### floats -/

def number (s : Text) : Except Fault Binary64 :=
  match Decimal.number? s with
  | some x => .ok x
  | none => .error (.noValue ("could not convert string to float: ".toList ++ Text.quoted s))

/-- Adds up the places from the lowest, which is the first, on. -/
def sumSixties (sum : Binary64) (unit : Nat) : List Binary64 → Except Fault Binary64
  | [] => .ok sum
  | p :: ps =>
    match Binary64.ofInt? unit with
    | none => .error (.overflow "int too large to convert to float".toList)
    | some u => sumSixties (sum.add (p.mul u)) (60 * unit) ps

def floatMagnitude (s : Text) : Except Fault Binary64 :=
  if s = ".inf".toList then .ok (.infinite false)
  else if s = ".nan".toList then .ok .nan
  else if s.contains ':' then do
    sumSixties (.finite false 0 Binary64.minExponent) 1 (← (Text.splitAt ':' s).mapM number).reverse
  else number s

def float (s : Text) : Except Fault Binary64 :=
  match Text.lower (dropUnderscores s) with
  | [] => .error .emptyNumeral
  | t =>
    let (negative, t) := Decimal.sign t
    (floatMagnitude t).map fun x => if negative then x.neg else x

/-! ### bytes -/

/-- The value of one of the 64 characters that stand for six bits. -/
def sextet? (c : Char) : Option Nat :=
  if 'A' ≤ c && c ≤ 'Z' then some (c.toNat - 65)
  else if 'a' ≤ c && c ≤ 'z' then some (c.toNat - 71)
  else if c.isDigit then some (c.toNat + 4)
  else if c = '+' then some 62
  else if c = '/' then some 63
  else none

/-- The octets of four characters each. Other characters do not count, and padding that
completes a group ends the text. `count` of the current group are read, with the value `bits`,
and `pads` padding characters behind them. -/
def octetsFrom (count bits pads : Nat) : Text → Option Utf8.Octets
  | [] => if count = 0 then some [] else none
  | c :: s =>
    if c = '=' then
      if 2 ≤ count && 4 ≤ count + pads + 1 then some []
      else octetsFrom count bits (if 2 ≤ count then pads + 1 else pads) s
    else
      match sextet? c with
      | none => octetsFrom count bits pads s
      | some d =>
        let n := 64 * bits + d
        match count with
        | 0 => octetsFrom 1 d 0 s
        | 1 => (octetsFrom 2 (n % 16) 0 s).map (UInt8.ofNat (n / 16) :: ·)
        | 2 => (octetsFrom 3 (n % 4) 0 s).map (UInt8.ofNat (n / 4) :: ·)
        | _ => (octetsFrom 0 0 0 s).map (UInt8.ofNat n :: ·)

/-! ### all types -/

def bool (s : Text) : Except Fault Bool :=
  let s := Text.lower s
  if Plain.isWordOf Plain.truths s then .ok true
  else if Plain.isWordOf Plain.falsehoods s then .ok false
  else .error (.notTruth s)

def moment (s : Text) : Except Fault Value :=
  match Plain.moment? (Plain.dropFinalBreak s) with
  | none => .error .notMoment
  | some (m, _) =>
    match m.fault? with
    | none => .ok .moment
    | some e => .error (.noValue e)

/-- The value of a scalar. -/
def value (tag : Tag) (s : Text) : Except Fault Value :=
  match tag with
  | .null => .ok .null
  | .bool => (bool s).map .bool
  | .int => (int s).map .int
  | .float => (float s).map .float
  | .binary =>
    match if s.all Decimal.isAscii then octetsFrom 0 0 0 s else none with
    | some bs => .ok (.bytes bs)
    | none => .error .malformed
  | .moment => moment s
  | .text => .ok (.text s)
  | _ => .error .malformed

end TestWeaver.Yaml.Scalar
