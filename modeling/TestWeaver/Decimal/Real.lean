import TestWeaver.Decimal.Binary64
import TestWeaver.Text.Basic

/-!
Real numbers as programs of the C language read and print them.

A number is a ratio that was rounded to so many binary digits; what is printed is rounded once
more, from the exact value, a half to the even digit.
-/

namespace TestWeaver.Decimal

inductive Real where
  | nan (negative : Bool)
  | infinite (negative : Bool)
  | ratio (negative : Bool) (num den : Nat)
deriving DecidableEq, Repr

namespace Real

/-- A fraction rounded to so many binary digits. -/
def roundBits (bits num den : Nat) : Nat × Nat :=
  if num = 0 then (0, 1)
  else
    let e := (Nat.log2 num : Int) - Nat.log2 den - bits
    let p := Binary64.scale num den 2 (-e)
    let e := if p.1 / p.2 < Nat.pow 2 bits then e else e + 1
    let p := Binary64.scale num den 2 (-e)
    Binary64.scale (Binary64.roundDiv p.1 p.2) 1 2 e

def isBlank (c : Char) : Bool := c = ' ' || (9 ≤ c.toNat && c.toNat ≤ 13)

def digitValue (c : Char) : Nat :=
  if c.isDigit then c.toNat - 48 else c.toLower.toNat - 87

def isHexDigit (c : Char) : Bool := c.isDigit || ('a' ≤ c.toLower && c.toLower ≤ 'f')

def natIn (base : Nat) (s : Text) : Nat := s.foldl (fun n c => n * base + digitValue c) 0

/-- The exponent behind one of two letters, and what follows; none counts as zero. -/
def exponent (mark : Char) (s : Text) : Int × Text :=
  match s with
  | c :: r =>
    if c.toLower = mark then
      let (negative, ds) : Bool × Text :=
        match r with
        | '-' :: t => (true, t)
        | '+' :: t => (false, t)
        | t => (false, t)
      let digits := ds.takeWhile Char.isDigit
      if digits = [] then (0, s)
      else
        let n : Int := natIn 10 digits
        (if negative then -n else n, ds.drop digits.length)
    else (0, s)
  | [] => (0, [])

/-- The ratio of digits around a point, and what follows them. -/
def magnitude? (base : Nat) (isDigit : Char → Bool) (s : Text) : Option (Nat × Nat × Text) :=
  let whole := s.takeWhile isDigit
  let r := s.drop whole.length
  let (fraction, r) : Text × Text :=
    match r with
    | '.' :: t =>
      let f := t.takeWhile isDigit
      if whole = [] && f = [] then ([], r) else (f, t.drop f.length)
    | _ => ([], r)
  if whole = [] && fraction = [] then none
  else some (natIn base (whole ++ fraction), base.pow fraction.length, r)

/-- Exponents beyond this make zero or infinity. -/
def farExponent : Int := 20000

def scaled (negative : Bool) (bits num den base : Nat) (e : Int) : Real :=
  if num = 0 then ratio negative 0 1
  else if e < -farExponent then ratio negative 0 1
  else if farExponent < e then infinite negative
  else
    let p := Binary64.scale num den base e
    let q := roundBits bits p.1 p.2
    if bits ≤ 53 && Nat.pow 2 1024 * q.2 ≤ q.1 then infinite negative else ratio negative q.1 q.2

/-- The words for numbers that are none. -/
def word? (negative : Bool) (s : Text) : Option (Real × Text) :=
  let low := s.map Char.toLower
  if Text.startsWith low "infinity".toList then some (infinite negative, s.drop 8)
  else if Text.startsWith low "inf".toList then some (infinite negative, s.drop 3)
  else if Text.startsWith low "nan".toList then some (nan negative, s.drop 3)
  else none

/-- Reads a number from the front of a text, and gives what follows it. -/
def read? (bits : Nat) (s : Text) : Option (Real × Text) :=
  let t := s.dropWhile isBlank
  let (negative, t) : Bool × Text :=
    match t with
    | '-' :: r => (true, r)
    | '+' :: r => (false, r)
    | r => (false, r)
  match word? negative t with
  | some r => some r
  | none =>
    let hex : Option (Real × Text) :=
      match t with
      | '0' :: x :: r =>
        if x.toLower = 'x' then
          (magnitude? 16 isHexDigit r).map fun (n, d, rest) =>
            let (e, rest) := exponent 'p' rest
            (scaled negative bits n d 2 e, rest)
        else none
      | _ => none
    match hex with
    | some r => some r
    | none =>
      (magnitude? 10 Char.isDigit t).map fun (n, d, rest) =>
        let (e, rest) := exponent 'e' rest
        (scaled negative bits n d 10 e, rest)

/-! ### printing -/

/-- A number of digits with a point in front of the last ones. -/
def pointed (digits : Text) (places : Nat) (always : Bool) : Text :=
  let s := List.replicate (places + 1 - digits.length) '0' ++ digits
  let whole := s.take (s.length - places)
  if places = 0 then (if always then whole ++ ['.'] else whole)
  else whole ++ '.' :: s.drop (s.length - places)

def fixed (places : Nat) (always : Bool) (num den : Nat) : Text :=
  pointed (Nat.toDigits 10 (Binary64.roundDiv (num * Nat.pow 10 places) den)) places always

/-- The power of ten of the first digit of a positive ratio. -/
def tenPower (num den : Nat) : Int :=
  let e : Int := (Nat.toDigits 10 num).length - (Nat.toDigits 10 den).length
  let p := Binary64.scale num den 10 (-e)
  if p.1 < p.2 then e - 1 else e

/-- The digits of a ratio, so many behind the first one, and the power of ten of the first. -/
def digitsOf (places num den : Nat) : Text × Int :=
  if num = 0 then (List.replicate (places + 1) '0', 0)
  else
    let e := tenPower num den
    let p := Binary64.scale num den 10 ((places : Int) - e)
    let ds := Nat.toDigits 10 (Binary64.roundDiv p.1 p.2)
    if places + 1 < ds.length then (ds.dropLast, e + 1) else (ds, e)

def exponentText (e : Int) : Text :=
  let ds := Nat.toDigits 10 e.natAbs
  'e' :: (if e < 0 then '-' else '+') :: (if ds.length < 2 then '0' :: ds else ds)

def exponential (places : Nat) (always : Bool) (num den : Nat) : Text :=
  let (ds, e) := digitsOf places num den
  ds.take 1 ++ (if places = 0 then (if always then ['.'] else []) else '.' :: ds.drop 1) ++
    exponentText e

def dropZeros (s : Text) : Text := (s.reverse.dropWhile (· = '0')).reverse

/-- So many digits in the shorter of two notations; zeros at the end are left out. -/
def general (digits : Nat) (always : Bool) (num den : Nat) : Text :=
  let count := max digits 1
  let (ds, e) := digitsOf (count - 1) num den
  let kept := if always then ds else dropZeros ds
  let kept := if kept = [] then ['0'] else kept
  if e < -4 || count ≤ e then
    kept.take 1 ++ (if kept.length ≤ 1 && !always then [] else '.' :: kept.drop 1) ++ exponentText e
  else if e < 0 then "0.".toList ++ List.replicate (-e - 1).toNat '0' ++ kept
  else
    let whole := kept.take (e.toNat + 1)
    let whole := whole ++ List.replicate (e.toNat + 1 - whole.length) '0'
    let rest := kept.drop (e.toNat + 1)
    whole ++ if rest = [] && !always then [] else '.' :: rest

end Real

end TestWeaver.Decimal
