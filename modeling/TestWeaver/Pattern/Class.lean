import TestWeaver.Text.Raw

/-!
Classes of octets in brackets, as patterns for names and regular expressions have them.
-/

namespace TestWeaver.Pattern

inductive Member where
  | one (c : Char)
  | range (a b : Char)
  | named (name : Text)
deriving DecidableEq, Repr

def isPunct (c : Char) : Bool :=
  33 ≤ c.toNat && c.toNat ≤ 126 && !c.isAlphanum

/-- The named classes, for octets of ASCII. -/
def kinds : List (String × (Char → Bool)) := [
  ("alpha", Char.isAlpha), ("digit", Char.isDigit), ("alnum", Char.isAlphanum),
  ("upper", Char.isUpper), ("lower", Char.isLower),
  ("space", fun c => c = ' ' || (9 ≤ c.toNat && c.toNat ≤ 13)),
  ("blank", fun c => c = ' ' || c = '\t'), ("punct", isPunct),
  ("print", fun c => 32 ≤ c.toNat && c.toNat ≤ 126),
  ("graph", fun c => 33 ≤ c.toNat && c.toNat ≤ 126),
  ("cntrl", fun c => c.toNat < 32 || c.toNat = 127),
  ("xdigit", fun c => c.isDigit || ('a' ≤ c && c ≤ 'f') || ('A' ≤ c && c ≤ 'F'))]

def kind? (name : Text) : Option (Char → Bool) :=
  (kinds.find? fun k => k.1.toList = name).map (·.2)

def Member.has (c : Char) : Member → Bool
  | one d => c = d
  | range a b => a ≤ c && c ≤ b
  | named n => (kind? n).any (· c)

/-- The name in front of the closing half of a pair such as `:]`. -/
def named? (mark : Char) (s : Text) : Option (Text × Text) :=
  (Text.cut? [mark, ']'] s).bind fun (n, r) => if n.all Char.isAlpha then some (n, r) else none

end TestWeaver.Pattern
