import TestWeaver.Decimal.Real
import TestWeaver.Text.Raw

/-!
Backslashes in texts that are printed.
-/

namespace TestWeaver.Utility

open Decimal (Real)

/-- Who prints: one of two shells, or a program of its own. -/
inductive Flavour where
  | plain
  | bash
  | tool
deriving DecidableEq, Repr

/-- Where the backslash stands: in a format, in an argument of a format, or in what is echoed. -/
inductive Setting where
  | format
  | argument
  | echoed
deriving DecidableEq, Repr

/-- What a backslash and what follows it come to. -/
inductive Escape where
  | text (t rest : Text)
  | stop
  | noDigits

def shortEscapes : List (Char × Char) :=
  [('a', '\x07'), ('b', '\x08'), ('f', '\x0c'), ('n', '\n'), ('r', '\r'), ('t', '\t'),
    ('v', '\x0b'), ('\\', '\\'), ('e', '\x1b')]

def isOctalDigit (c : Char) : Bool := '0' ≤ c && c ≤ '7'

/-- The octet of at most so many digits in front of a text. -/
def octet (base most : Nat) (isDigit : Char → Bool) (s : Text) : Text × Text :=
  let ds := (s.take most).takeWhile isDigit
  ([Char.ofNat (Real.natIn base ds % 256)], s.drop ds.length)

/-- The character of at most so many hexadecimal digits, if there are any. -/
def unicode? (most : Nat) (s : Text) : Option (Text × Text) :=
  let ds := (s.take most).takeWhile Real.isHexDigit
  if ds = [] then none
  else some (Raw.ofText [Char.ofNat (Real.natIn 16 ds)], s.drop ds.length)

/-- Reads on behind a backslash. -/
def escape (f : Flavour) (w : Setting) (s : Text) : Escape :=
  match s with
  | [] => .text ['\\'] []
  | c :: r =>
    let asIs : Escape := .text ['\\', c] r
    match shortEscapes.lookup c with
    | some d => .text [d] r
    | none =>
      if c = 'c' then
        if w = .format && f ≠ .tool then asIs else .stop
      else if isOctalDigit c then
        if c = '0' && w ≠ .format then
          let (t, rest) := octet 8 3 isOctalDigit r
          .text t rest
        else if w = .echoed && f = .bash then asIs
        else
          let (t, rest) := octet 8 3 isOctalDigit s
          .text t rest
      else if f = .plain then asIs
      else if c = 'x' then
        if r.head?.any Real.isHexDigit then
          let (t, rest) := octet 16 2 Real.isHexDigit r
          .text t rest
        else if f = .tool && w ≠ .echoed then .noDigits
        else asIs
      else if c = 'E' && f = .bash then .text ['\x1b'] r
      else if c = '"' && w ≠ .echoed then .text ['"'] r
      else if (c = '\'' || c = '?') && f = .bash && w ≠ .echoed then .text [c] r
      else if c = 'u' && w ≠ .echoed || c = 'u' && f = .bash then
        match unicode? 4 r with
        | some (t, rest) => .text t rest
        | none => if f = .tool then .noDigits else asIs
      else if c = 'U' && w ≠ .echoed || c = 'U' && f = .bash then
        match unicode? 8 r with
        | some (t, rest) => .text t rest
        | none => if f = .tool then .noDigits else asIs
      else asIs

/-- A text with its backslashes read, and whether it is printed to its end. -/
def unescapeFrom (f : Flavour) (w : Setting) : Nat → Text → Text × Bool
  | 0, _ => ([], true)
  | _ + 1, [] => ([], true)
  | n + 1, '\\' :: s =>
    match escape f w s with
    | .text t rest =>
      let (u, on) := unescapeFrom f w n rest
      (t ++ u, on)
    | .stop => ([], false)
    | .noDigits =>
      let (u, on) := unescapeFrom f w n s
      ('\\' :: u, on)
  | n + 1, s =>
    let t := s.takeWhile (· ≠ '\\')
    let (u, on) := unescapeFrom f w n (s.drop t.length)
    (t ++ u, on)

def unescape (f : Flavour) (w : Setting) (s : Text) : Text × Bool := unescapeFrom f w (s.length + 1) s

/-- What is echoed of arguments. -/
def echo (f : Flavour) (args : List Text) : Text :=
  let isFlag : Text → Bool := fun a =>
    if f = .plain then a = "-n".toList
    else
      match a with
      | '-' :: c :: cs => (c :: cs).all fun d => d = 'n' || d = 'e' || d = 'E'
      | _ => false
  let given := if f = .plain then (args.take 1).takeWhile isFlag else args.takeWhile isFlag
  let letters := given.flatMap (·.drop 1)
  let escapes := f = .plain || (letters.filter (· ≠ 'n')).getLast? = some 'e'
  let text := List.intercalate [' '] (args.drop given.length)
  let (t, on) := if escapes then unescape f .echoed text else (text, true)
  if on && !letters.contains 'n' then t ++ ['\n'] else t

end TestWeaver.Utility
