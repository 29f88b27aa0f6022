import TestWeaver.Json.Basic
import TestWeaver.Text.Quoted

/-!
Writing JSON: `pretty` in ASCII, one item a line, with two spaces for each level of nesting, a
character above U+FFFF as a surrogate pair; `compact` in one line without blanks, and only what
must be is escaped.
-/

namespace TestWeaver.Json

def unicode (n : Nat) : Text := '\\' :: 'u' :: Text.hex 4 n

def escaped (c : Char) : Text :=
  if c = '"' then ['\\', '"']
  else if c = '\\' then ['\\', '\\']
  else if c = '\n' then ['\\', 'n']
  else if c = '\r' then ['\\', 'r']
  else if c = '\t' then ['\\', 't']
  else if c = '\x0c' then ['\\', 'f']
  else if c = '\x08' then ['\\', 'b']
  else if 0x20 ≤ c.toNat && c.toNat < 0x7F then [c]
  else if c.toNat < 0x10000 then unicode c.toNat
  else
    let n := c.toNat - 0x10000
    unicode (0xD800 + n / 0x400) ++ unicode (0xDC00 + n % 0x400)

def quote (s : Text) : Text := '"' :: s.flatMap escaped ++ ['"']

def numberText (x : Binary64) : Text :=
  match x with
  | .nan => "NaN".toList
  | .infinite s => (if s then "-Infinity" else "Infinity").toList
  | x => Decimal.shortest x

def newline (level : Nat) : Text := '\n' :: List.replicate (2 * level) ' '

mutual

def render (level : Nat) : Json → Text
  | null => "null".toList
  | bool b => (if b then "true" else "false").toList
  | integer n => Decimal.integer n
  | number x => numberText x
  | string s => quote s
  | array [] => ['[', ']']
  | array (j :: js) =>
    '[' :: newline (level + 1) ++ render (level + 1) j ++ renderItems (level + 1) js ++
      newline level ++ [']']
  | object [] => ['{', '}']
  | object ((n, j) :: fs) =>
    '{' :: newline (level + 1) ++ quote n ++ ':' :: ' ' :: render (level + 1) j ++
      renderFields (level + 1) fs ++ newline level ++ ['}']

def renderItems (level : Nat) : List Json → Text
  | [] => []
  | j :: js => ',' :: newline level ++ render level j ++ renderItems level js

def renderFields (level : Nat) : List (Text × Json) → Text
  | [] => []
  | (n, j) :: fs =>
    ',' :: newline level ++ quote n ++ ':' :: ' ' :: render level j ++ renderFields level fs

end

/-- The text of a value. -/
def pretty (j : Json) : Text := render 0 j

def escapedControl (c : Char) : Text :=
  if c.toNat < 0x7F then escaped c else [c]

def quoteRaw (s : Text) : Text := '"' :: s.flatMap escapedControl ++ ['"']

mutual

/-- The text of a value in one line. -/
def compact : Json → Text
  | null => "null".toList
  | bool b => (if b then "true" else "false").toList
  | integer n => Decimal.integer n
  | number x => numberText x
  | string s => quoteRaw s
  | array [] => ['[', ']']
  | array (j :: js) => '[' :: compact j ++ compactItems js ++ [']']
  | object [] => ['{', '}']
  | object ((n, j) :: fs) =>
    '{' :: quoteRaw n ++ ':' :: compact j ++ compactFields fs ++ ['}']

def compactItems : List Json → Text
  | [] => []
  | j :: js => ',' :: compact j ++ compactItems js

def compactFields : List (Text × Json) → Text
  | [] => []
  | (n, j) :: fs => ',' :: quoteRaw n ++ ':' :: compact j ++ compactFields fs

end

end TestWeaver.Json
