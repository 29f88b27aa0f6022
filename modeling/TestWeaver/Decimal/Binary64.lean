/-!
Binary floating-point numbers of 64 bits as exact values.

A finite number is a mantissa below 2^53 times a power of two. Every operation computes the
exact ratio and rounds once, to the nearest number and to the even one of two.
-/

namespace TestWeaver

inductive Binary64 where
  | nan
  | infinite (negative : Bool)
  | finite (negative : Bool) (mantissa : Nat) (exponent : Int)
deriving DecidableEq, Repr

namespace Binary64

/-- The quotient rounded to the nearest integer, a half to the even one. -/
def roundDiv (num den : Nat) : Nat :=
  let q := num / den
  let r := num % den
  if den < 2 * r || (den = 2 * r && q % 2 = 1) then q + 1 else q

def minExponent : Int := -1074

def maxExponent : Int := 971

/-- The ratio `num / den · b ^ e` as a fraction of natural numbers. -/
def scale (num den b : Nat) (e : Int) : Nat × Nat :=
  if 0 ≤ e then (num * b.pow e.toNat, den) else (num, den * b.pow (-e).toNat)

/-- The exponent at which a ratio has 53 binary digits, or the least one there is. -/
def exponentFor (num den : Nat) : Int :=
  let e := (Nat.log2 num : Int) - Nat.log2 den - 52
  let p := scale num den 2 (-e)
  max minExponent (if p.1 / p.2 < Nat.pow 2 52 then e - 1 else e)

/-- The number nearest to `num / den`, with a sign. -/
def ofRatio (negative : Bool) (num den : Nat) : Binary64 :=
  if num = 0 then finite negative 0 minExponent
  else
    let e := exponentFor num den
    let p := scale num den 2 (-e)
    let m := roundDiv p.1 p.2
    let (m, e) := if m = Nat.pow 2 53 then (Nat.pow 2 52, e + 1) else (m, e)
    if maxExponent < e then infinite negative else finite negative m e

/-- The number nearest to `digits · 10 ^ e`. Beyond the range of all numbers the digits do not
matter. -/
def ofDecimal (negative : Bool) (digits : Nat) (e : Int) : Binary64 :=
  let top := e + (Nat.toDigits 10 digits).length
  if digits = 0 || top < -400 then finite negative 0 minExponent
  else if 400 < top then infinite negative
  else
    let p := scale digits 1 10 e
    ofRatio negative p.1 p.2

/-- The number nearest to an integer, unless the integer is too large. -/
def ofInt? (n : Int) : Option Binary64 :=
  match ofRatio (n < 0) n.natAbs 1 with
  | infinite _ => none
  | x => some x

/-- The size of a finite number as a fraction. -/
def ratio (m : Nat) (e : Int) : Nat × Nat := scale m 1 2 e

def isPositive : Binary64 → Bool
  | nan => false
  | infinite s => !s
  | finite s m _ => !s && m ≠ 0

def neg : Binary64 → Binary64
  | nan => nan
  | infinite s => infinite !s
  | finite s m e => finite (!s) m e

def mul : Binary64 → Binary64 → Binary64
  | finite s m e, finite t n f =>
    let p := ratio m e
    let q := ratio n f
    ofRatio (s != t) (p.1 * q.1) (p.2 * q.2)
  | infinite s, infinite t => infinite (s != t)
  | infinite s, finite t n _ => if n = 0 then nan else infinite (s != t)
  | finite s m _, infinite t => if m = 0 then nan else infinite (s != t)
  | _, _ => nan

def add : Binary64 → Binary64 → Binary64
  | finite s m e, finite t n f =>
    let p := ratio m e
    let q := ratio n f
    let a := p.1 * q.2
    let b := q.1 * p.2
    let den := p.2 * q.2
    if s = t then ofRatio s (a + b) den
    else if a = b then finite false 0 minExponent
    else if b < a then ofRatio s (a - b) den
    else ofRatio t (b - a) den
  | infinite s, infinite t => if s = t then infinite s else nan
  | infinite s, finite _ _ _ => infinite s
  | finite _ _ _, infinite t => infinite t
  | _, _ => nan

/-- Whether two numbers compare as equal: the two zeros do, and nothing equals a NaN. -/
def same : Binary64 → Binary64 → Bool
  | finite s m e, finite t n f => (m = 0 && n = 0) || (s = t && m = n && e = f)
  | infinite s, infinite t => s = t
  | _, _ => false

end Binary64

end TestWeaver
