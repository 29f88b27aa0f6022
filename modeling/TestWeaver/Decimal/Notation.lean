import TestWeaver.Decimal.Binary64
import TestWeaver.Text.Basic

/-!
Writing floating-point numbers in decimal.

Both notations of this library are cut from one digit string and the place of its point:
`shortest` has the fewest digits that read back as the number, the nearest of those, and
`brief` has at most six. Positional notation is used for magnitudes from 10^-4 up to a limit,
and an exponent has a sign and at least two digits.
-/

namespace TestWeaver.Decimal

/-- Significant digits, and how many of them stand before the decimal point. -/
structure Digits where
  digits : Text
  point : Int
deriving DecidableEq, Repr

def dropTrailingZeros (s : Text) : Text := (s.reverse.dropWhile (· = '0')).reverse

/-- The digits of `d · 10 ^ e`. -/
def Digits.ofScaled (d : Nat) (e : Int) : Digits :=
  let s := Nat.toDigits 10 d
  ⟨dropTrailingZeros s, e + s.length⟩

/-- The `k` with 10^(k-1) ≤ num/den < 10^k, for a ratio of at least 10^-400. -/
def magnitude (num den : Nat) : Int :=
  ((Nat.toDigits 10 (num * Nat.pow 10 400 / den)).length : Int) - 400

/-- Of the decimals with the last digit at 10^e the two neighbours of a number: those that read
back as it, the nearer one if both do. -/
def readsBackAt (m : Nat) (x e : Int) : Option Nat :=
  let r := Binary64.ratio m x
  let p := Binary64.scale r.1 r.2 10 (-e)
  let q := p.1 / p.2
  let hit := fun d => decide (Binary64.ofDecimal false d e = .finite false m x)
  match hit q, hit (q + 1) with
  | true, true => some (Binary64.roundDiv p.1 p.2)
  | true, false => some q
  | false, true => some (q + 1)
  | false, false => none

/-- The fewest digits, `count` of them or more, that read back. -/
def shortestFrom (m : Nat) (x k : Int) (count : Nat) : Nat → Digits
  | 0 => .ofScaled 0 0
  | fuel + 1 =>
    match readsBackAt m x (k - count) with
    | some d => .ofScaled d (k - count)
    | none => shortestFrom m x k (count + 1) fuel

/-- The shortest digits of the positive number m · 2^x. -/
def shortestDigits (m : Nat) (x : Int) : Digits :=
  let r := Binary64.ratio m x
  shortestFrom m x (magnitude r.1 r.2) 1 17

/-- The digits of the positive number m · 2^x rounded to `count` of them. -/
def roundedDigits (count m : Nat) (x : Int) : Digits :=
  let r := Binary64.ratio m x
  let e := magnitude r.1 r.2 - count
  let p := Binary64.scale r.1 r.2 10 (-e)
  .ofScaled (Binary64.roundDiv p.1 p.2) e

/-- What a notation decides: up to how many digits before the point it is positional, and what
it writes behind a whole number. -/
structure Style where
  maxPoint : Int
  wholeEnd : Text

def zeros (n : Int) : Text := List.replicate n.toNat '0'

def Style.positional (y : Style) (d : Digits) : Text :=
  if d.point ≤ 0 then '0' :: '.' :: zeros (-d.point) ++ d.digits
  else if d.digits.length ≤ d.point then
    d.digits ++ zeros (d.point - d.digits.length) ++ y.wholeEnd
  else d.digits.take d.point.toNat ++ '.' :: d.digits.drop d.point.toNat

def exponential (d : Digits) : Text :=
  let e := d.point - 1
  let size := Nat.toDigits 10 e.natAbs
  let fraction :=
    match d.digits.drop 1 with
    | [] => []
    | f => '.' :: f
  d.digits.take 1 ++ fraction ++ 'e' :: (if e < 0 then '-' else '+') ::
    (if size.length < 2 then '0' :: size else size)

def Style.write (y : Style) (d : Digits) : Text :=
  if -4 < d.point && d.point ≤ y.maxPoint then y.positional d else exponential d

/-- A number of either sign, whose positive part has the digits that `digits` gives. -/
def Style.number (y : Style) (digits : Nat → Int → Digits) : Binary64 → Text
  | .nan => "nan".toList
  | .infinite s => (if s then "-inf" else "inf").toList
  | .finite s m e =>
    (if s then ['-'] else []) ++ y.write (if m = 0 then ⟨['0'], 1⟩ else digits m e)

/-- Positional below 10^16, whole numbers with a zero behind the point. -/
def shortest (x : Binary64) : Text := Style.number ⟨16, ['.', '0']⟩ shortestDigits x

/-- At most six digits, positional below 10^6. -/
def brief (x : Binary64) : Text := Style.number ⟨6, []⟩ (roundedDigits 6) x

/-- The nearest whole number, a half to the even one. -/
def whole : Binary64 → Text
  | .nan => "nan".toList
  | .infinite s => (if s then "-inf" else "inf").toList
  | .finite s m e =>
    let r := Binary64.ratio m e
    (if s then ['-'] else []) ++ Nat.toDigits 10 (Binary64.roundDiv r.1 r.2)

def integer (n : Int) : Text := (if n < 0 then ['-'] else []) ++ Nat.toDigits 10 n.natAbs

end TestWeaver.Decimal
