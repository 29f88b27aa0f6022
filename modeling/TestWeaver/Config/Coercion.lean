import TestWeaver.Decimal.Notation
import TestWeaver.Decimal.Reading
import TestWeaver.Failure
import TestWeaver.Text.Blank
import TestWeaver.Text.Lowercase
import TestWeaver.Yaml.Value

/-!
Which values are accepted where a setting has a type. A truth value is never a number or a text,
numbers may be written as texts, and a value that does not fit counts as left out.
-/

namespace TestWeaver.Config

open Yaml (Value)

abbrev Entries := List (Value × Value)

/-- Integers with more digits than can be read are not written either. -/
def integerText (n : Int) : Except Failure Text :=
  if Nat.pow 10 Decimal.maxDigits ≤ n.natAbs then
    .error (.value ("Exceeds the limit (4300 digits) for integer string conversion; ".toList ++
      "use sys.set_int_max_str_digits() to increase the limit".toList))
  else .ok (Decimal.integer n)

def asText : Value → Except Failure (Option Text)
  | .text s => .ok (some s)
  | .int n => (integerText n).map some
  | .float x => .ok (some (Decimal.shortest x))
  | _ => .ok none

def asNumber : Value → Except Failure (Option Binary64)
  | .int n =>
    match Binary64.ofInt? n with
    | some x => .ok (some x)
    | none => .error (.overflow "int too large to convert to float".toList)
  | .float x => .ok (some x)
  | .text s => .ok (Decimal.number? s)
  | _ => .ok none

def asInteger : Value → Option Int
  | .int n => some n
  | .text s => Decimal.integer? s
  | _ => none

def asBool : Value → Option Bool
  | .bool b => some b
  | .text s =>
    let word := String.ofList (Text.lower (Text.trim s))
    if word = "true" || word = "yes" || word = "1" then some true
    else if word = "false" || word = "no" || word = "0" then some false
    else none
  | _ => none

def asEntries : Value → Entries
  | .mapping es => es
  | _ => []

/-- The text of an item of a list; numbers and truth values are written out. -/
def itemText : Value → Except Failure (Option Text)
  | .bool b => .ok (some (if b then "True" else "False").toList)
  | v => asText v

/-- A list of texts; one text is a list of one, and octets are a list of numbers. -/
def asTexts : Value → Except Failure (List Text)
  | .text s => .ok [s]
  | .sequence vs => (vs.mapM itemText).map fun ts => ts.filterMap id
  | .bytes bs => .ok (bs.map fun b => Decimal.integer b.toNat)
  | _ => .ok []

end TestWeaver.Config
