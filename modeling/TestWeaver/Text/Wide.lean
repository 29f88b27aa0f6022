import TestWeaver.Text.Utf8

/-!
Texts as units of two or four octets.

Where a text must open with a character below U+0080, the zeros among its first octets tell how
wide the units are and which octet of a unit comes first. Half of a surrogate pair that stands
alone is kept as a character of the last plane, where no text has any, and cannot be written as
octets; in names of files, though, some of the halves stand for octets themselves.
-/

namespace TestWeaver.Wide

open Utf8 (Octets)

/-- How a text is laid out in octets. -/
inductive Layout where
  | utf8
  | utf16 (big : Bool)
  | utf32 (big : Bool)
deriving DecidableEq, Repr

def layoutOf : Octets → Layout
  | a :: b :: c :: d :: _ =>
    if a = 0 then (if b = 0 then .utf32 true else .utf16 true)
    else if b = 0 then (if c = 0 && d = 0 then .utf32 false else .utf16 false)
    else .utf8
  | [a, b] => if a = 0 then .utf16 true else if b = 0 then .utf16 false else .utf8
  | _ => .utf8

def isHigh (n : Nat) : Bool := 0xD800 ≤ n && n < 0xDC00

def isLow (n : Nat) : Bool := 0xDC00 ≤ n && n < 0xE000

/-- The character of a code point. -/
def charOf (n : Nat) : Char := Char.ofNat (if isHigh n || isLow n then 0x100000 + n else n)

/-- The half of a surrogate pair that a character stands for. -/
def half? (c : Char) : Option Nat :=
  let n := c.toNat - 0x100000
  if isHigh n || isLow n then some n else none

/-- Halves that stand for octets which are no UTF-8. -/
def isOctet (n : Nat) : Bool := 0xDC80 ≤ n && n ≤ 0xDCFF

/-- A single half is shown, of several only the positions. -/
def unencodableText (position : Nat) (halves : List Nat) : Text :=
  let place :=
    match halves with
    | [n] => "character '\\u".toList ++ Text.hex 4 n ++ "' in position ".toList ++
      Utf8.number position
    | hs => "characters in position ".toList ++ Utf8.number position ++ '-' ::
      Utf8.number (position + hs.length - 1)
  "'utf-8' codec can't encode ".toList ++ place ++ ": surrogates not allowed".toList

/-- The halves at the front of a text. -/
def halvesOf (s : Text) : List Nat := (s.takeWhile fun c => (half? c).isSome).filterMap half?

def faultFrom (octets : Bool) : Nat → Text → Option Text
  | _, [] => none
  | position, c :: s =>
    if (half? c).any fun n => !(octets && isOctet n) then
      some (unencodableText position (halvesOf (c :: s)))
    else faultFrom octets (position + 1) s

/-- Why a text cannot be written, if it cannot. -/
def fault? (s : Text) : Option Text := faultFrom false 0 s

/-- Why a text cannot be written as the name of a file, if it cannot. -/
def nameFault? (s : Text) : Option Text := faultFrom true 0 s

def pairOf (high low : Nat) : Nat := 0x10000 + (high - 0xD800) * 0x400 + (low - 0xDC00)

def unit (big : Bool) (bs : Octets) : Nat :=
  (if big then bs else bs.reverse).foldl (fun n b => 256 * n + b.toNat) 0

def pairs (big : Bool) : Octets → Option (List Nat)
  | [] => some []
  | a :: b :: bs => (pairs big bs).map (unit big [a, b] :: ·)
  | [_] => none

def quads (big : Bool) : Octets → Option (List Nat)
  | [] => some []
  | a :: b :: c :: d :: bs => (quads big bs).map (unit big [a, b, c, d] :: ·)
  | _ => none

/-- The characters of units of two octets. -/
def join : List Nat → Text
  | high :: low :: ns =>
    if isHigh high && isLow low then Char.ofNat (pairOf high low) :: join ns
    else charOf high :: join (low :: ns)
  | [n] => [charOf n]
  | [] => []

/-- The text that octets hold whose layout shows in the first of them. -/
def decode (bs : Octets) : Option Text :=
  match layoutOf bs with
  | .utf8 => (Utf8.decode bs).toOption
  | .utf16 big => (pairs big bs).map join
  | .utf32 big =>
    (quads big bs).bind fun ns => if ns.all (· < 0x110000) then some (ns.map charOf) else none

/-- A text read again by the layout that its octets show. -/
def reread (s : Text) : Option Text :=
  if (s.take 4).contains (Char.ofNat 0) then decode (Utf8.encode s) else some s

end TestWeaver.Wide
