import TestWeaver.Text.Quoted

/-!
Texts as UTF-8 octets.

`pieces` reads octets one by one and never fails: where they are no UTF-8 it gives an invalid
piece, as long as the octets could still have become a character and at least one octet long.
`decode` refuses the first invalid piece, `decodeLossy` puts U+FFFD in place of each.
-/

namespace TestWeaver.Utf8

abbrev Octets := List UInt8

def encodeChar (c : Char) : Octets :=
  let n := c.toNat
  let tail := fun k : Nat => UInt8.ofNat (0x80 + n / Nat.pow 2 k % 64)
  if n < 0x80 then [UInt8.ofNat n]
  else if n < 0x800 then [UInt8.ofNat (0xC0 + n / 64), tail 0]
  else if n < 0x10000 then [UInt8.ofNat (0xE0 + n / 4096), tail 6, tail 0]
  else [UInt8.ofNat (0xF0 + n / 262144), tail 12, tail 6, tail 0]

def encode (s : Text) : Octets := s.flatMap encodeChar

inductive Fault where
  | badStart
  | badContinuation
  | truncated
deriving DecidableEq, Repr

inductive Piece where
  | char (c : Char)
  | invalid (octets : Octets) (fault : Fault)
deriving DecidableEq, Repr

/-- A character of which some octets are read: how many are owed, the range that the next one
must be in, and the value so far. -/
structure Pending where
  owed : Nat
  low : Nat := 0x80
  high : Nat := 0xBF
  value : Nat
  octets : Octets
deriving DecidableEq, Repr

/-- The octet that opens a character. -/
def first (b : UInt8) : List Piece × Option Pending :=
  let n := b.toNat
  if n < 0x80 then ([.char (Char.ofNat n)], none)
  else if n < 0xC2 then ([.invalid [b] .badStart], none)
  else if n < 0xE0 then ([], some { owed := 1, value := n - 0xC0, octets := [b] })
  else if n < 0xF0 then
    ([], some {
      owed := 2, value := n - 0xE0, octets := [b]
      low := if n = 0xE0 then 0xA0 else 0x80, high := if n = 0xED then 0x9F else 0xBF })
  else if n < 0xF5 then
    ([], some {
      owed := 3, value := n - 0xF0, octets := [b]
      low := if n = 0xF0 then 0x90 else 0x80, high := if n = 0xF4 then 0x8F else 0xBF })
  else ([.invalid [b] .badStart], none)

/-- One octet after a state. -/
def next (p : Option Pending) (b : UInt8) : List Piece × Option Pending :=
  match p with
  | none => first b
  | some p =>
    if p.low ≤ b.toNat && b.toNat ≤ p.high then
      let value := p.value * 64 + (b.toNat - 0x80)
      if p.owed = 1 then ([.char (Char.ofNat value)], none)
      else ([], some { owed := p.owed - 1, value, octets := p.octets ++ [b] })
    else (.invalid p.octets .badContinuation :: (first b).1, (first b).2)

def piecesFrom (p : Option Pending) : Octets → List Piece
  | [] => (p.map fun q => .invalid q.octets .truncated).toList
  | b :: bs => (next p b).1 ++ piecesFrom (next p b).2 bs

def pieces (bs : Octets) : List Piece := piecesFrom none bs

/-- An invalid piece and the number of octets before it. -/
structure DecodeError where
  position : Nat
  octets : Octets
  fault : Fault
deriving DecidableEq, Repr

def Fault.message : Fault → Text
  | .badStart => "invalid start byte".toList
  | .badContinuation => "invalid continuation byte".toList
  | .truncated => "unexpected end of data".toList

def number (n : Nat) : Text := (toString n).toList

/-- A single octet is shown, of several only the positions. -/
def DecodeError.message (e : DecodeError) : Text :=
  let place :=
    match e.octets with
    | [b] => "byte 0x".toList ++ Text.hex 2 b.toNat ++ " in position ".toList ++ number e.position
    | bs =>
      "bytes in position ".toList ++ number e.position ++ '-' :: number (e.position + bs.length - 1)
  "'utf-8' codec can't decode ".toList ++ place ++ ':' :: ' ' :: e.fault.message

def decodePieces (position : Nat) : List Piece → Except DecodeError Text
  | [] => .ok []
  | .invalid bs f :: _ => .error ⟨position, bs, f⟩
  | .char c :: ps => (decodePieces (position + (encodeChar c).length) ps).map (c :: ·)

/-- The text that octets hold. -/
def decode (bs : Octets) : Except DecodeError Text := decodePieces 0 (pieces bs)

def decodeLossy (bs : Octets) : Text :=
  (pieces bs).map fun
    | .char c => c
    | .invalid _ _ => Char.ofNat 0xFFFD

/-- One newline for every carriage return, alone or in front of a newline. -/
def unifyNewlines : Text → Text
  | [] => []
  | '\r' :: '\n' :: s => '\n' :: unifyNewlines s
  | c :: s => (if c = '\r' then '\n' else c) :: unifyNewlines s

end TestWeaver.Utf8
