import TestWeaver.Decimal.Reading
import TestWeaver.Time.Moment
import TestWeaver.Yaml.Character

/-!
Types of nodes. A plain scalar gets its type from its form: truth values and null are words,
integers and floats are numerals in several bases, and dates are written from the year on.
-/

namespace TestWeaver.Yaml

inductive Tag where
  | null
  | bool
  | int
  | float
  | binary
  | moment
  | text
  | sequence
  | pairs
  | mapping
  | set
  | merge
  | default
  | unknown
deriving DecidableEq, Repr

namespace Tag

def space : Text := "tag:yaml.org,2002:".toList

def names : List (String × Tag) := [
  ("null", .null), ("bool", .bool), ("int", .int), ("float", .float), ("binary", .binary),
  ("timestamp", .moment), ("str", .text), ("seq", .sequence), ("omap", .pairs),
  ("pairs", .pairs), ("map", .mapping), ("set", .set), ("merge", .merge), ("value", .default)]

def ofName (s : Text) : Tag :=
  match (Text.after? space s).bind fun n => names.find? fun p => p.1.toList = n with
  | some p => p.2
  | none => unknown

/-- Whether the values of a type can be changed; these are no keys. -/
def isCollection : Tag → Bool
  | sequence | pairs | mapping | set => true
  | _ => false

end Tag

namespace Plain

def isWordOf (words : List String) (s : Text) : Bool := words.any fun w => w.toList = s

def truths : List String :=
  ["yes", "Yes", "YES", "true", "True", "TRUE", "on", "On", "ON"]

def falsehoods : List String :=
  ["no", "No", "NO", "false", "False", "FALSE", "off", "Off", "OFF"]

def nulls : List String := ["~", "null", "Null", "NULL", ""]

def isNumeralChar (c : Char) : Bool := c.isDigit || c = '_'

/-- A digit, then digits and underscores. -/
def isNumeral : Text → Bool
  | [] => false
  | c :: s => c.isDigit && s.all isNumeralChar

/-- A number below sixty, in one digit or two. -/
def isSixtieth : Text → Bool
  | [d] => d.isDigit
  | [t, d] => '0' ≤ t && t ≤ '5' && d.isDigit
  | _ => false

def isInt (s : Text) : Bool :=
  match (Decimal.sign s).2 with
  | '0' :: 'b' :: ds => ds ≠ [] && ds.all fun c => c = '0' || c = '1' || c = '_'
  | '0' :: 'x' :: ds => ds ≠ [] && ds.all fun c => isHexDigit c || c = '_'
  | '0' :: ds => ds.all fun c => ('0' ≤ c && c ≤ '7') || c = '_'
  | s =>
    match Text.splitAt ':' s with
    | [] => false
    | n :: ns => isNumeral n && ns.all isSixtieth

/-- Nothing, or the letter, a sign and digits. -/
def isExponent : Text → Bool
  | [] => true
  | e :: g :: ds =>
    (e = 'e' || e = 'E') && (g = '+' || g = '-') && ds ≠ [] && ds.all Char.isDigit
  | _ => false

def isFloat (s : Text) : Bool :=
  match Text.cut? ['.'] s with
  | none => false
  | some (w, f) =>
    let (_, w') := Decimal.sign w
    if w' = [] then
      isWordOf ["inf", "Inf", "INF"] f ||
        (w = [] && (isWordOf ["nan", "NaN", "NAN"] f ||
          ((f.head?.map Char.isDigit).getD false && isExponent (f.dropWhile isNumeralChar))))
    else
      match Text.splitAt ':' w' with
      | [] => false
      | [n] => isNumeral n && isExponent (f.dropWhile isNumeralChar)
      | n :: ns => isNumeral n && ns.all isSixtieth && f.all isNumeralChar

/-! ### dates and times -/

/-- A number of `lo` to `hi` digits. -/
def number? (lo hi : Nat) (s : Text) : Option (Int × Text) :=
  let ds := (s.take hi).takeWhile Char.isDigit
  if lo ≤ ds.length then some (Decimal.digitsValue ds, s.drop ds.length) else none

def skip? (c : Char) : Text → Option Text
  | [] => none
  | d :: s => if c = d then some s else none

def isTabOrSpace (c : Char) : Bool := c = ' ' || c = '\t'

/-- The offset behind a time. -/
def offset? (s : Text) : Option (Option Int) :=
  match s.dropWhile isTabOrSpace with
  | [] => if s = [] then some none else none
  | ['Z'] => some (some 0)
  | g :: r => do
    if g ≠ '+' && g ≠ '-' then none
    let (h, r) ← number? 1 2 r
    let m ← if r = [] then some 0 else do
      let (m, r) ← number? 2 2 (← skip? ':' r)
      if r = [] then some m else none
    some (some (if g = '-' then -(60 * h + m) else 60 * h + m))

/-- What stands between a date and a time. -/
def afterDate? : Text → Option Text
  | [] => none
  | c :: s =>
    if c = 'T' || c = 't' then some s
    else if isTabOrSpace c then some (s.dropWhile isTabOrSpace)
    else none

/-- Microseconds: the first six digits behind a point. -/
def fraction (s : Text) : Int × Text :=
  match s with
  | '.' :: r =>
    let ds := r.takeWhile Char.isDigit
    (Decimal.digitsValue ((ds ++ List.replicate 6 '0').take 6), r.drop ds.length)
  | _ => (0, s)

/-- A date, and whether a time follows it. -/
def moment? (s : Text) : Option (Moment × Bool) := do
  let (year, s) ← number? 4 4 s
  let (month, s) ← number? 1 2 (← skip? '-' s)
  let (day, s) ← number? 1 2 (← skip? '-' s)
  if s = [] then
    some (⟨year, month, day, 0, 0, 0, 0, none⟩, false)
  else
    let (hour, s) ← number? 1 2 (← afterDate? s)
    let (minute, s) ← number? 2 2 (← skip? ':' s)
    let (second, s) ← number? 2 2 (← skip? ':' s)
    let (micro, s) := fraction s
    some (⟨year, month, day, hour, minute, second, micro, ← offset? s⟩, true)

/-- A plain date has two digits for the month and for the day. -/
def isMoment (s : Text) : Bool :=
  match moment? s with
  | none => false
  | some (_, timed) => timed || s.length = 10

/-- A line break at the end does not count. -/
def dropFinalBreak (s : Text) : Text := if s.getLast? = some '\n' then s.dropLast else s

/-- The type of a plain scalar. -/
def tagOf (s : Text) : Tag :=
  let s := if s = ['\n'] then s else dropFinalBreak s
  if isWordOf truths s || isWordOf falsehoods s then .bool
  else if isFloat s then .float
  else if isInt s then .int
  else if s = ['<', '<'] then .merge
  else if isWordOf nulls s then .null
  else if isMoment s then .moment
  else if s = ['='] then .default
  else .text

end Plain

end TestWeaver.Yaml
