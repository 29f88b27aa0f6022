import TestWeaver.Text.Basic

/-!
The characters of YAML: which ones a text may hold at all, and the classes that the reader of
tokens asks for. The end of a text is seen as the null character, which no text holds.
-/

namespace TestWeaver.Yaml

/-- What goes wrong in reading: the text is no YAML, or a scalar has no value of the type that its
form or its tag tells. -/
inductive Fault where
  | malformed
  | noValue (message : Text)
  | overflow (message : Text)
  | notTruth (word : Text)
  | emptyNumeral
  | tooManyDigits (count : Nat)
  | notMoment
  | notText
  | endless
deriving DecidableEq, Repr

def endMark : Char := Char.ofNat 0

def byteOrderMark : Char := Char.ofNat 0xFEFF

/-- Characters that a text may hold. -/
def isAllowed (c : Char) : Bool :=
  let n := c.toNat
  n = 0x09 || n = 0x0A || n = 0x0D || (0x20 ≤ n && n ≤ 0x7E) || n = 0x85 ||
    (0xA0 ≤ n && n ≤ 0xD7FF) || (0xE000 ≤ n && n ≤ 0xFFFD) || 0x10000 ≤ n

def isBreak (c : Char) : Bool :=
  c = '\n' || c = '\r' || c.toNat = 0x85 || c.toNat = 0x2028 || c.toNat = 0x2029

def isBreakOrEnd (c : Char) : Bool := isBreak c || c = endMark

/-- What may follow an indicator such as a dash. -/
def isGap (c : Char) : Bool := isBreakOrEnd c || c = ' ' || c = '\t'

/-- As `isGap`, without the tab. -/
def isSpaceOrEnd (c : Char) : Bool := isBreakOrEnd c || c = ' '

/-- The brackets and the comma of the flow style. -/
def isFlowMark (c : Char) : Bool := c = ',' || c = '[' || c = ']' || c = '\x7b' || c = '\x7d'

/-- What may stand right behind the name of an anchor, apart from a gap. -/
def endsName (c : Char) : Bool :=
  "?:,]%@".toList.contains c || c = '\x7d' || c = '\x60'

/-- Characters with a meaning of their own at the start of a token. -/
def isIndicator (c : Char) : Bool :=
  isFlowMark c || "-?:#&*!|>%@".toList.contains c || c = '\'' || c = '"' || c = '\x60'

def isNameChar (c : Char) : Bool := c.isAlphanum || c = '-' || c = '_'

def isUriChar (c : Char) : Bool := c.isAlphanum || "-;/?:@&=+$,_.!~*'()[]%".toList.contains c

def isHexDigit (c : Char) : Bool := c.isDigit || ('a' ≤ c && c ≤ 'f') || ('A' ≤ c && c ≤ 'F')

def hexValue (c : Char) : Nat :=
  if c.isDigit then c.toNat - 48 else if c.toNat < 97 then c.toNat - 55 else c.toNat - 87

def hexNumber (s : Text) : Nat := s.foldl (fun n c => 16 * n + hexValue c) 0

end TestWeaver.Yaml
