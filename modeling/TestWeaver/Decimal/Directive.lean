import TestWeaver.Decimal.Real

/-!
Directives of formatted output: flags, a width and a precision around numbers and texts.
-/

namespace TestWeaver.Decimal

structure Directive where
  left : Bool := false
  plus : Bool := false
  space : Bool := false
  marked : Bool := false
  zero : Bool := false
  width : Nat := 0
  precision : Option Nat := none
deriving DecidableEq, Repr, Inhabited

namespace Directive

def flag (d : Directive) (c : Char) : Directive :=
  match c with
  | '-' => { d with left := true }
  | '+' => { d with plus := true }
  | ' ' => { d with space := true }
  | '#' => { d with marked := true }
  | '0' => { d with zero := true }
  | _ => d

/-- A width that may ask for the left side by a minus sign. -/
def widen (d : Directive) (n : Int) : Directive :=
  { d with left := d.left || n < 0, width := n.natAbs }

/-- Fills up to the width, with zeros behind the sign or with spaces. -/
def fill (d : Directive) (zeros : Bool) (sign body : Text) : Text :=
  let room := d.width - sign.length - body.length
  if d.left then sign ++ body ++ List.replicate room ' '
  else if zeros then sign ++ List.replicate room '0' ++ body
  else List.replicate room ' ' ++ sign ++ body

def sign (d : Directive) (negative : Bool) : Text :=
  if negative then ['-'] else if d.plus then ['+'] else if d.space then [' '] else []

def text (d : Directive) (s : Text) : Text :=
  d.fill false [] (match d.precision with
    | some n => s.take n
    | none => s)

/-- Digits with zeros in front up to the precision; zero itself may vanish. -/
def digits (d : Directive) (base : Nat) (n : Nat) : Text :=
  let ds := if n = 0 && d.precision = some 0 then [] else Nat.toDigits base n
  List.replicate (d.precision.getD 0 - ds.length) '0' ++ ds

def integer (d : Directive) (n : Int) : Text :=
  d.fill (d.zero && d.precision.isNone) (d.sign (n < 0)) (d.digits 10 n.natAbs)

/-- A number without a sign in one of the bases that the conversions mean. -/
def natural (d : Directive) (conversion : Char) (n : Nat) : Text :=
  let zeros := d.zero && d.precision.isNone
  match conversion with
  | 'o' =>
    let ds := d.digits 8 n
    d.fill zeros [] (if d.marked && ds.head? ≠ some '0' then '0' :: ds else ds)
  | 'x' => d.fill zeros (if d.marked && n ≠ 0 then ['0', 'x'] else []) (d.digits 16 n)
  | 'X' =>
    d.fill zeros (if d.marked && n ≠ 0 then ['0', 'X'] else []) ((d.digits 16 n).map Char.toUpper)
  | _ => d.fill zeros [] (d.digits 10 n)

/-- A ratio in hexadecimal, with one digit in front of the point. -/
def hexadecimal (d : Directive) (num den : Nat) : Text :=
  if num = 0 then "0".toList ++ (match d.precision with
    | some (p + 1) => '.' :: List.replicate (p + 1) '0'
    | _ => []) ++ "p+0".toList
  else
    let e := (Nat.log2 num : Int) - Nat.log2 den
    let p := Binary64.scale num den 2 (-e)
    let e := if p.1 < p.2 then e - 1 else e
    let places := d.precision.getD 13
    let p := Binary64.scale num den 2 (4 * (places : Int) - e)
    let ds := Nat.toDigits 16 (Binary64.roundDiv p.1 p.2)
    let fraction := if d.precision.isNone then Real.dropZeros (ds.drop 1) else ds.drop 1
    ds.take 1 ++ (if fraction = [] then [] else '.' :: fraction) ++
      'p' :: (if e < 0 then '-' else '+') :: Nat.toDigits 10 e.natAbs

def real (d : Directive) (conversion : Char) (x : Real) : Text :=
  let upper := conversion.isUpper
  let shown := fun (s : Text) => if upper then s.map Char.toUpper else s
  match x with
  | .nan s => d.fill false (d.sign s) (shown "nan".toList)
  | .infinite s => d.fill false (d.sign s) (shown "inf".toList)
  | .ratio s num den =>
    let places := d.precision.getD 6
    let body :=
      match conversion.toLower with
      | 'f' => Real.fixed places d.marked num den
      | 'e' => Real.exponential places d.marked num den
      | 'g' => Real.general places d.marked num den
      | _ => d.hexadecimal num den
    let front : Text := if conversion.toLower = 'a' then (if upper then "0X" else "0x").toList else []
    d.fill d.zero (d.sign s ++ front) (shown body)

end Directive

end TestWeaver.Decimal
