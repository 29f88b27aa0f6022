import TestWeaver.Decimal.Reading
import TestWeaver.Json.Basic
import TestWeaver.Text.Wide

/-!
Reading JSON text. A fault is at the offset, in code points, at which the text stops making
sense: the character that cannot stand there, the quote of a string that does not end, or the
backslash of an escape that is none. The names of the numbers that are not finite are values.
Integers that are too long and values that are too deep are not read at all.
-/

namespace TestWeaver.Json

inductive Fault where
  | senseless (offset : Nat)
  | tooLong
  | tooDeep
deriving DecidableEq, Repr

/-- The levels of arrays and objects that are read. -/
def mostLevels : Nat := 960

/-- What is left to read, and the offset at which it starts. -/
structure Cursor where
  offset : Nat
  rest : Text

abbrev Reads (α : Type) := Except Fault (α × Cursor)

def Cursor.skip (c : Cursor) (n : Nat) : Cursor := ⟨c.offset + n, c.rest.drop n⟩

def isSpace (c : Char) : Bool := c = ' ' || c = '\t' || c = '\n' || c = '\r'

def Cursor.skipSpace (c : Cursor) : Cursor := c.skip (c.rest.takeWhile isSpace).length

def hexValue? (c : Char) : Option Nat :=
  if c.isDigit then some (c.toNat - 48)
  else if 'a' ≤ c && c ≤ 'f' then some (c.toNat - 87)
  else if 'A' ≤ c && c ≤ 'F' then some (c.toNat - 55)
  else none

def hex? (s : Text) : Option Nat := s.foldlM (fun n c => (hexValue? c).map (16 * n + ·)) 0

/-- The character that a backslash and a letter stand for. -/
def simpleEscape? : Char → Option Char
  | '"' => some '"'
  | '\\' => some '\\'
  | '/' => some '/'
  | 'b' => some '\x08'
  | 'f' => some '\x0c'
  | 'n' => some '\n'
  | 'r' => some '\r'
  | 't' => some '\t'
  | _ => none

/-- A code point and the number of characters that its escape takes behind the letter `u`, which
stands at `offset`. -/
def unicodeEscape (offset : Nat) (s : Text) : Except Fault (Char × Nat) :=
  if s.length ≤ 4 then .error (.senseless offset)
  else
    match hex? (s.take 4) with
    | none => .error (.senseless offset)
    | some n =>
      let single := Wide.charOf n
      match s.drop 4 with
      | '\\' :: 'u' :: t =>
        if Wide.isHigh n && 4 < t.length then
          match hex? (t.take 4) with
          | none => .error (.senseless (offset + 6))
          | some m =>
            if Wide.isLow m then .ok (Char.ofNat (Wide.pairOf n m), 10)
            else .ok (single, 4)
        else .ok (single, 4)
      | _ => .ok (single, 4)

/-- The rest of a string whose quote is at `start`. `busy` counts the characters that the escape
read last still takes. -/
def stringFrom (start : Nat) (offset busy : Nat) : Text → Reads Text
  | [] => .error (.senseless start)
  | c :: s =>
    match busy with
    | n + 1 => stringFrom start (offset + 1) n s
    | 0 =>
      if c = '"' then .ok ([], ⟨offset + 1, s⟩)
      else if c = '\\' then
        match s with
        | [] => .error (.senseless start)
        | 'u' :: t =>
          match unicodeEscape (offset + 1) t with
          | .error e => .error e
          | .ok (d, n) =>
            (stringFrom start (offset + 1) (n + 1) s).map fun p => (d :: p.1, p.2)
        | d :: _ =>
          match simpleEscape? d with
          | none => .error (.senseless offset)
          | some e => (stringFrom start (offset + 1) 1 s).map fun p => (e :: p.1, p.2)
      else if c.toNat < 0x20 then .error (.senseless offset)
      else (stringFrom start (offset + 1) 0 s).map fun p => (c :: p.1, p.2)

/-- The string behind a quote. -/
def string? (c : Cursor) : Reads Text := stringFrom (c.offset - 1) c.offset 0 c.rest

/-- The digits behind a point, if there are any. -/
def fractionOf : Text → Text
  | '.' :: s => s.takeWhile Char.isDigit
  | _ => []

/-- The exponent at the start of a text, if it has digits. -/
def exponentOf : Text → Text
  | c :: s =>
    if c = 'e' || c = 'E' then
      let signs := if s.head? = some '+' || s.head? = some '-' then 1 else 0
      match (s.drop signs).takeWhile Char.isDigit with
      | [] => []
      | ds => c :: s.take signs ++ ds
    else []
  | [] => []

/-- The number at a cursor: no digit follows a zero that comes first. -/
def number? (c : Cursor) : Reads Json :=
  let negative := c.rest.head? = some '-'
  let body := if negative then c.rest.drop 1 else c.rest
  let whole :=
    match body with
    | '0' :: _ => ['0']
    | s => s.takeWhile Char.isDigit
  if whole = [] then .error (.senseless c.offset)
  else
    let fraction := fractionOf (body.drop whole.length)
    let fractionSize := if fraction = [] then 0 else fraction.length + 1
    let exponent := exponentOf (body.drop (whole.length + fractionSize))
    let size := (if negative then 1 else 0) + whole.length + fractionSize + exponent.length
    let value :=
      if fraction = [] && exponent = [] then
        let n : Int := Decimal.digitsValue whole
        integer (if negative then -n else n)
      else
        number (.ofDecimal negative (Decimal.digitsValue (whole ++ fraction))
          ((Decimal.exponent? exponent).getD 0 - fraction.length))
    if fraction = [] && exponent = [] && Decimal.maxDigits < whole.length then .error .tooLong
    else .ok (value, c.skip size)

/-- Words that are values. -/
def words : List (Text × Json) := [
  ("null".toList, null), ("true".toList, bool true), ("false".toList, bool false),
  ("NaN".toList, number .nan), ("Infinity".toList, number (.infinite false)),
  ("-Infinity".toList, number (.infinite true))]

def word? (c : Cursor) : Option (Json × Cursor) :=
  words.findSome? fun (w, j) => (Text.after? w c.rest).map fun _ => (j, c.skip w.length)

mutual

/-- The value at a cursor, so many levels above the deepest one that is read. -/
def value? (levels : Nat) : Nat → Cursor → Reads Json
  | 0, c => .error (.senseless c.offset)
  | fuel + 1, c =>
    match c.rest, levels with
    | '"' :: _, _ => (string? (c.skip 1)).map fun p => (string p.1, p.2)
    | '[' :: _, 0 | '{' :: _, 0 => .error .tooDeep
    | '[' :: _, n + 1 =>
      let d := (c.skip 1).skipSpace
      if d.rest.head? = some ']' then .ok (array [], d.skip 1) else items? n fuel [] d
    | '{' :: _, n + 1 =>
      let d := (c.skip 1).skipSpace
      if d.rest.head? = some '}' then .ok (object [], d.skip 1) else fields? n fuel [] d
    | _, _ =>
      match word? c with
      | some p => .ok p
      | none => number? c

/-- The items of an array from one of them on, the last one first. -/
def items? (levels : Nat) : Nat → List Json → Cursor → Reads Json
  | 0, _, c => .error (.senseless c.offset)
  | fuel + 1, before, c =>
    match value? levels fuel c with
    | .error e => .error e
    | .ok (j, d) =>
      let d := d.skipSpace
      match d.rest with
      | ']' :: _ => .ok (array (j :: before).reverse, d.skip 1)
      | ',' :: _ => items? levels fuel (j :: before) (d.skip 1).skipSpace
      | _ => .error (.senseless d.offset)

/-- The fields of an object from one of them on. -/
def fields? (levels : Nat) : Nat → List (Text × Json) → Cursor → Reads Json
  | 0, _, c => .error (.senseless c.offset)
  | fuel + 1, before, c =>
    if c.rest.head? ≠ some '"' then .error (.senseless c.offset)
    else
      match string? (c.skip 1) with
      | .error e => .error e
      | .ok (name, d) =>
        let d := d.skipSpace
        if d.rest.head? ≠ some ':' then .error (.senseless d.offset)
        else
          match value? levels fuel (d.skip 1).skipSpace with
          | .error e => .error e
          | .ok (j, d) =>
            let d := d.skipSpace
            match d.rest with
            | '}' :: _ => .ok (object (setField name j before), d.skip 1)
            | ',' :: _ => fields? levels fuel (setField name j before) (d.skip 1).skipSpace
            | _ => .error (.senseless d.offset)

end

/-- The value that a text holds, blanks around it allowed, or what is wrong with the text. -/
def parse (s : Text) : Except Fault Json :=
  let c : Cursor := ⟨0, s⟩
  match value? mostLevels (2 * s.length + 2) c.skipSpace with
  | .error e => .error e
  | .ok (j, d) =>
    let d := d.skipSpace
    if d.rest = [] then .ok j else .error (.senseless d.offset)

end TestWeaver.Json
