import TestWeaver.Pattern.Regex
import TestWeaver.Utility.Basic

/-!
Programs that print what they make of their arguments.
-/

namespace TestWeaver.Utility

open Decimal (Directive Real)
open Machine (Proc)

def missingOperand {α : Type} (status : Nat := 1) : Act α := misuse "missing operand".toList status

def missingOperandAfter {α : Type} (a : Text) : Act α :=
  misuse ("missing operand after ".toList ++ curly a)

def extraOperand {α : Type} (a : Text) (status : Nat := 1) : Act α :=
  misuse ("extra operand ".toList ++ curly a) status

def echoProgram : Program := fun args => emit (echo .tool args)

def printfProgram : Program := fun args => do
  match (if args.head? = some "--".toList then args.drop 1 else args) with
  | [] => missingOperand
  | format :: args =>
    let p := print .tool format args
    emit p.text
    for m in p.complaints do
      flush
      complain m
    if let some m := p.fault then die m
    if p.failed then setStatus 1

/-- Whether a condition holds; one that is none has a status of its own. -/
def testProgram (bracket : Bool) : Program := fun args => do
  let args ←
    if !bracket then pure args
    else if args.getLast? = some [']'] then pure args.dropLast
    else die ("missing ".toList ++ curly [']']) 2
  match holds { flavour := .tool, tree := ← look } args with
  | .ok b => setStatus (if b then 0 else 1)
  | .error (.message m) => die m 2

/-! ### names of files -/

def dropSlashes (t : Text) : Text := (t.reverse.dropWhile (· = '/')).reverse

/-- The last name of a path. -/
def lastName (path : Text) : Text :=
  let t := dropSlashes path
  if t = [] then path.take 1 else (t.reverse.takeWhile (· ≠ '/')).reverse

/-- All of a path but its last name. -/
def dirName (path : Text) : Text :=
  let t := dropSlashes path
  if t = [] then (if path = [] then ['.'] else ['/'])
  else
    let d := (t.reverse.dropWhile (· ≠ '/')).reverse
    if d = [] then ['.']
    else
      let d := dropSlashes d
      if d = [] then ['/'] else d

def dropEnding (ending name : Text) : Text :=
  if ending ≠ [] && name ≠ ending && Text.endsWith name ending then
    name.take (name.length - ending.length)
  else name

def basename : Program := fun args => do
  let (os, names) ← parse [⟨'a', "multiple", false, false⟩, ⟨'s', "suffix", true, false⟩,
    ⟨'z', "zero", false, false⟩] args true
  let tail : Text := if has os 'z' then [Char.ofNat 0] else ['\n']
  let ending := (valueOf os 's').getD []
  if has os 'a' || has os 's' then
    if names = [] then missingOperand
    for n in names do emit (dropEnding ending (lastName n) ++ tail)
  else
    match names with
    | [] => missingOperand
    | [n] => emit (lastName n ++ tail)
    | [n, e] => emit (dropEnding e (lastName n) ++ tail)
    | _ :: _ :: x :: _ => extraOperand x

def dirname : Program := fun args => do
  let (os, names) ← parse [⟨'z', "zero", false, false⟩] args
  if names = [] then missingOperand
  for n in names do emit (dirName n ++ if has os 'z' then [Char.ofNat 0] else ['\n'])

/-! ### numbers in a row -/

/-- A number as it was given: its value, and how wide and precise it is; nothing for one that is
not written with decimal digits. -/
structure Operand where
  negative : Bool
  num : Nat
  den : Nat
  width : Int
  precision : Option Nat

namespace Operand

def minus (a : Operand) : Int := if a.negative then -(a.num : Int) else a.num

/-- Whether one number is less than another. -/
def less (a b : Operand) : Bool := a.minus * b.den < b.minus * a.den

def ofRatio (n : Int) (d : Nat) : Operand :=
  let (num, den) := Real.roundBits 64 n.natAbs d
  ⟨n < 0, num, den, 0, none⟩

/-- A number so many steps on. -/
def after (a step : Operand) (i : Nat) : Operand :=
  let p := ofRatio (step.minus * i) step.den
  ofRatio (a.minus * p.den + p.minus * a.den) (a.den * p.den)

def real (a : Operand) : Decimal.Real := .ratio a.negative a.num a.den

end Operand

/-- How wide and precise a number is as it is written. -/
def measure (t : Text) : Int × Option Nat :=
  let t := t.dropWhile fun c => Real.isBlank c || c = '+'
  let point := t.contains '.'
  let precision : Option Nat := if point || t.contains 'p' then none else some 0
  if t.any fun c => c = 'x' || c = 'X' then (0, precision)
  else
    let mantissa := t.takeWhile fun c => c ≠ 'e' && c ≠ 'E'
    let hasExponent := mantissa.length < t.length
    let whole := mantissa.takeWhile (· ≠ '.')
    let fraction := (mantissa.drop (whole.length + 1)).length
    let precision := if point then some fraction else precision
    let width : Int := t.length
    let width := if !point then width
      else if fraction = 0 then width - 1
      else if whole.getLast?.any Char.isDigit then width
      else width + 1
    if !hasExponent then (width, precision)
    else
      let (e, _) := Real.exponent 'e' ('e' :: t.drop (mantissa.length + 1))
      let p := precision.getD 0
      let p' : Nat := if e < 0 then p + e.natAbs else p - min p e.natAbs
      let width := width - (t.length - mantissa.length : Nat)
      if e < 0 then
        let width := if point then (if fraction = 0 then width + 1 else width) else width + 1
        (width + e.natAbs, some p')
      else
        let width := if point && p' = 0 && fraction ≠ 0 then width - 1 else width
        (width + (e.natAbs - min fraction e.natAbs : Nat), some p')

def operand (t : Text) : Act Operand := do
  match Real.read? 64 t with
  | some (.ratio negative num den, []) =>
    let (w, p) := measure t
    return ⟨negative, num, den, w, p⟩
  | some (.nan _, []) =>
    misuse ("invalid ".toList ++ curly "not-a-number".toList ++ " argument: ".toList ++ curly t)
  | some (.infinite negative, []) => return ⟨negative, Nat.pow 10 100, 1, 0, none⟩
  | _ => misuse ("invalid floating point argument: ".toList ++ curly t)

/-- A format with one directive: what stands before it, its letter, and what stands behind it. -/
structure NumberFormat where
  before : Text
  directive : Directive
  letter : Char
  behind : Text

def NumberFormat.text (f : NumberFormat) (x : Decimal.Real) : Text :=
  f.before ++ f.directive.real f.letter x ++ f.behind

/-- Cuts a text at the first percent sign that stands alone. -/
def cutPercent : Text → Text × Option Text
  | [] => ([], none)
  | '%' :: '%' :: r =>
    let (a, b) := cutPercent r
    ('%' :: a, b)
  | '%' :: r => ([], some r)
  | c :: r =>
    let (a, b) := cutPercent r
    (c :: a, b)

def numberFormat (format : Text) : Act NumberFormat := do
  let shown := "format ".toList ++ curly format
  match cutPercent format with
  | (_, none) => die (shown ++ " has no % directive".toList)
  | (before, some r) =>
    let flags := r.takeWhile fun c => "#-+ 0'".toList.contains c
    let r := r.drop flags.length
    let width := r.takeWhile Char.isDigit
    let r := r.drop width.length
    let (precision, r) : Option Nat × Text :=
      match r with
      | '.' :: r =>
        let p := r.takeWhile Char.isDigit
        (some (Real.natIn 10 p), r.drop p.length)
      | r => (none, r)
    let r := if r.head? = some 'L' then r.drop 1 else r
    match r with
    | [] => die (shown ++ " ends in %".toList)
    | c :: r =>
      if !"efgaEFGA".toList.contains c then
        die (shown ++ " has unknown %".toList ++ [c] ++ " directive".toList)
      else
        let (behind, more) := cutPercent r
        if more.isSome then die (shown ++ " has too many % directives".toList)
        let d := flags.foldl Directive.flag {}
        return ⟨before, { d with width := Real.natIn 10 width, precision := precision }, c, behind⟩

/-- How numbers are shown that are written with decimal digits. -/
def defaultFormat (equal : Bool) (first step last : Operand) : NumberFormat :=
  match first.precision, step.precision, last.precision with
  | some a, some b, some c =>
    let p := max a b
    let d : Directive :=
      if equal then
        let firstWidth := first.width + (p - a : Nat) + if a = 0 && p ≠ 0 then 1 else 0
        let lastWidth := last.width + ((p : Int) - c) + (if c ≠ 0 && p = 0 then -1 else 0) +
          if c = 0 && p ≠ 0 then 1 else 0
        { zero := true, width := (max firstWidth lastWidth).toNat, precision := some p }
      else { precision := some p }
    ⟨[], d, 'f', []⟩
  | _, _, _ => ⟨[], {}, 'g', []⟩

/-- Whether a number that lies behind the last one is shown as the last one, and not as the one
before. -/
def isShownAsLast (f : NumberFormat) (x before last : Operand) : Bool :=
  let t := f.text x.real
  let body := (t.drop f.before.length).take (t.length - f.before.length - f.behind.length)
  match Real.read? 64 body with
  | some (.ratio n a b, []) =>
    let v : Operand := ⟨n, a, b, 0, none⟩
    !v.less last && !last.less v && t ≠ f.text before.real
  | _ => false

def printNumbers (f : NumberFormat) (separator : Text) (first step last : Operand) : Act Unit := do
  let isOut := fun (x : Operand) => if step.minus < 0 then x.less last else last.less x
  if !isOut first then
    Proc.iterate (fun ((i, x) : Nat × Operand) => do
      emit (f.text x.real)
      let y := first.after step i
      let out := isOut y
      if out && !isShownAsLast f y x last then return .inr ()
      emit separator
      if out then
        emit (f.text y.real)
        return .inr ()
      return .inl (i + 1, y)) () Proc.ages (1, first)
    emit ['\n']

/-- Where the numbers begin: one with a minus sign is no option. -/
def cutOptions (withText : Char → Bool) : List Text → List Text × List Text
  | [] => ([], [])
  | a :: r =>
    match a with
    | ['-', '-'] => ([a], r)
    | '-' :: c :: cs =>
      if c = '.' || c.isDigit then ([], a :: r)
      else
        let takesNext := withText c && cs = [] ||
          c = '-' && (cs = "separator".toList || cs = "format".toList)
        if takesNext then
          match r with
          | b :: r =>
            let (os, ns) := cutOptions withText r
            (a :: b :: os, ns)
          | [] => ([a], [])
        else
          let (os, ns) := cutOptions withText r
          (a :: os, ns)
    | _ => ([], a :: r)

def seq : Program := fun args => do
  let (given, numbers) := cutOptions (fun c => c = 's' || c = 'f') args
  let (os, _) ← parse [⟨'f', "format", true, false⟩, ⟨'s', "separator", true, false⟩,
    ⟨'w', "equal-width", false, false⟩] given
  if numbers = [] then missingOperand
  if let x :: _ := numbers.drop 3 then extraOperand x
  let format ← (valueOf os 'f').mapM numberFormat
  if has os 'w' && format.isSome then
    misuse "format string may not be specified when printing equal width strings".toList
  let ns ← numbers.mapM operand
  let one : Operand := ⟨false, 1, 1, 1, some 0⟩
  let (first, step, last) : Operand × Operand × Operand :=
    match ns with
    | [last] => (one, one, last)
    | [first, last] => (first, one, last)
    | [first, step, last] => (first, step, last)
    | _ => (one, one, one)
  if step.num = 0 then
    misuse ("invalid Zero increment value: ".toList ++ curly (numbers.getD 1 []))
  let separator := (valueOf os 's').getD ['\n']
  printNumbers (format.getD (defaultFormat (has os 'w') first step last)) separator first step last

/-- The prime factors of a number from a divisor on. -/
def factorsFrom : Nat → Nat → Nat → List Nat
  | 0, _, n => [n]
  | k + 1, d, n =>
    if n < 2 then []
    else if n < d * d then [n]
    else if n % d = 0 then d :: factorsFrom k d (n / d)
    else factorsFrom k (if d = 2 then 3 else d + 2) n

def factorLine (t : Text) : Act Unit := do
  if isDigits t then
    let n := number t
    emit (Raw.ofNat n ++ [':'])
    for f in factorsFrom 100000000 2 n do emit (' ' :: Raw.ofNat f)
    emit ['\n']
  else grumble (curly t ++ " is not a valid positive integer".toList)

def factor : Program := fun args => do
  let (_, names) ← parse [] args
  if names ≠ [] then names.forM factorLine
  else
    match ← readStream 0 with
    | .ok t => (wordsOf t).forM factorLine
    | .error _ => return

/-- Prints a line for ever. -/
def yes : Program := fun args => do
  let args := if args.head? = some "--".toList then args.drop 1 else args
  let line := if args = [] then ['y'] else List.intercalate [' '] args
  let row := line ++ ['\n']
  let block := (List.replicate (bufferSize / row.length + 1) row).flatten
  Proc.repeatWhile (do
    emit block
    return true) Proc.ages

/-! ### expressions -/

/-- What an expression comes to; numbers and texts are both texts. -/
abbrev Sum := Act (Text × List Text)

def integer? (t : Text) : Option Int :=
  match t with
  | '-' :: ds => if isDigits ds then some (-(number ds : Int)) else none
  | ds => if isDigits ds then some (number ds : Int) else none

/-- Nothing, or nothing but zeros. -/
def isNull (t : Text) : Bool :=
  if t = [] then true
  else
    match t with
    | '-' :: ds => ds ≠ [] && ds.all (· = '0')
    | ds => ds.all (· = '0')

def exprFault {α : Type} (m : String) (t : Text := []) (end_ : String := "") : Act α :=
  die (m.toList ++ t ++ end_.toList) 2

def truth (b : Bool) : Text := if b then ['1'] else ['0']

/-- What a pattern at the beginning of a text covers: its first group, or how much it is. -/
def matching (t pattern : Text) : Act Text := do
  match Pattern.Regex.ofText false pattern with
  | .error e => die e.message 2
  | .ok r =>
    let hasGroup := r.groupCount ≠ 0
    match r.matchAt {} t.toArray 0 with
    | none => return if hasGroup then [] else ['0']
    | some m =>
      if hasGroup then
        return (m.group? t.toArray 1).getD []
      else
        let whole := (m.group? t.toArray 0).getD []
        return Raw.ofNat (Raw.toText whole).length

def arithmetic (op a b : Text) : Act Text := do
  match integer? a, integer? b with
  | some x, some y =>
    match op with
    | ['+'] => return Raw.ofInt (x + y)
    | ['-'] => return Raw.ofInt (x - y)
    | ['*'] => return Raw.ofInt (x * y)
    | _ =>
      if y = 0 then exprFault "division by zero"
      else return Raw.ofInt (if op = ['/'] then x.tdiv y else x.tmod y)
  | _, _ => exprFault "non-integer argument"

def comparison (op a b : Text) : Text :=
  let isLess : Bool × Bool :=
    match integer? a, integer? b with
    | some x, some y => (x < y, y < x)
    | _, _ => (a < b, b < a)
  truth <| match String.ofList op with
    | "<" => isLess.1
    | "<=" => !isLess.2
    | "=" | "==" => !isLess.1 && !isLess.2
    | "!=" => isLess.1 || isLess.2
    | ">=" => !isLess.1
    | _ => isLess.2

def isOneOf (ops : List String) (t : Text) : Bool := ops.any fun o => o.toList = t

def substring (t from_ count : Text) : Text :=
  match integer? from_, integer? count with
  | some i, some n =>
    if i ≤ 0 || n ≤ 0 then [] else Raw.ofText (((Raw.toText t).drop (i.toNat - 1)).take n.toNat)
  | _, _ => []

/-- Where the first character of a text is that is one of some. -/
def indexOf (t marks : Text) : Nat :=
  let cs := Raw.toText t
  let ms := Raw.toText marks
  match cs.findIdx? fun c => ms.contains c with
  | some i => i + 1
  | none => 0

/-- Operators that bind as strongly as each other, from the left. -/
def leftOperators (ops : List String) (operand : List Text → Sum)
    (apply : Text → Text → Text → Act Text) : Nat → Text → List Text → Sum
  | 0, a, ws => return (a, ws)
  | n + 1, a, ws => do
    match ws with
    | op :: rest =>
      if isOneOf ops op then
        let (b, ws) ← operand rest
        leftOperators ops operand apply n (← apply op a b) ws
      else return (a, ws)
    | [] => return (a, [])

mutual

/-- Parts joined by "or" and "and"; `real` says whether the value matters. The last word that
was read is kept for complaints. -/
def anyOf : Nat → Bool → Text → List Text → Sum
  | 0, _, _, ws => return ([], ws)
  | n + 1, live, last, ws => do
    let (a, ws) ← allOf n live last ws
    let r : Text × List Text ← Proc.iterate (fun ((a, ws) : Text × List Text) => do
      match ws with
      | ['|'] :: rest =>
        let (b, ws) ← allOf n (live && isNull a) ['|'] rest
        return .inl (if isNull a then (if isNull b then ['0'] else b) else a, ws)
      | _ => return .inr (a, ws)) (a, ws) Proc.ages (a, ws)
    return r

def allOf : Nat → Bool → Text → List Text → Sum
  | 0, _, _, ws => return ([], ws)
  | n + 1, live, last, ws => do
    let (a, ws) ← compared n live last ws
    let r : Text × List Text ← Proc.iterate (fun ((a, ws) : Text × List Text) => do
      match ws with
      | ['&'] :: rest =>
        let (b, ws) ← compared n (live && !isNull a) ['&'] rest
        return .inl (if isNull a || isNull b then ['0'] else a, ws)
      | _ => return .inr (a, ws)) (a, ws) Proc.ages (a, ws)
    return r

def compared : Nat → Bool → Text → List Text → Sum
  | 0, _, _, ws => return ([], ws)
  | n + 1, live, last, ws => do
    let when := fun (f : Text → Text → Text → Act Text) op a b =>
      if live then f op a b else return a
    let matched := fun last ws => do
      let (a, ws) ← functionOf n live last ws
      leftOperators [":"] (functionOf n live [':']) (when fun _ a b => matching a b) ws.length a ws
    let product := fun last ws => do
      let (a, ws) ← matched last ws
      leftOperators ["*", "/", "%"] (fun ws => matched ['*'] ws) (when arithmetic) ws.length a ws
    let addition := fun last ws => do
      let (a, ws) ← product last ws
      leftOperators ["+", "-"] (fun ws => product ['+'] ws) (when arithmetic) ws.length a ws
    let (a, ws) ← addition last ws
    leftOperators ["<", "<=", "=", "==", "!=", ">=", ">"] (addition ['='])
      (when fun op a b => return comparison op a b) ws.length a ws

def functionOf : Nat → Bool → Text → List Text → Sum
  | 0, _, _, ws => return ([], ws)
  | n + 1, live, last, ws => do
    let missing := fun (t : Text) =>
      (exprFault "syntax error: missing argument after " (curly t) : Sum)
    match ws with
    | [] => missing last
    | ['+'] :: rest =>
      match rest with
      | t :: ws => return (t, ws)
      | [] => missing ['+']
    | w :: rest =>
      match String.ofList w with
      | "length" =>
        let (t, ws) ← functionOf n live w rest
        return (Raw.ofNat (Raw.toText t).length, ws)
      | "match" =>
        let (a, ws) ← functionOf n live w rest
        let (b, ws) ← functionOf n live a ws
        if live then return (← matching a b, ws) else return (a, ws)
      | "index" =>
        let (a, ws) ← functionOf n live w rest
        let (b, ws) ← functionOf n live a ws
        return (Raw.ofNat (indexOf a b), ws)
      | "substr" =>
        let (a, ws) ← functionOf n live w rest
        let (i, ws) ← functionOf n live a ws
        let (k, ws) ← functionOf n live i ws
        return (substring a i k, ws)
      | "(" =>
        let (a, ws') ← anyOf n live w rest
        match ws' with
        | [')'] :: ws => return (a, ws)
        | [] =>
          exprFault "syntax error: expecting ')' after " (curly (rest.getLast?.getD w))
        | t :: _ => exprFault "syntax error: expecting ')' instead of " (curly t)
      | ")" => exprFault "syntax error: unexpected ')'"
      | _ => return (w, rest)

end

def expr : Program := fun args => do
  let args := if args.head? = some "--".toList then args.drop 1 else args
  if args = [] then missingOperand 2
  let (t, rest) ← anyOf (4 * args.length + 4) true [] args
  match rest with
  | w :: _ => exprFault "syntax error: unexpected argument " (curly w)
  | [] =>
    emitLine t
    setStatus (if isNull t then 1 else 0)

end TestWeaver.Utility
