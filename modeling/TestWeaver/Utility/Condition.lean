import TestWeaver.Pattern.Names
import TestWeaver.Utility.Printf

/-!
Tests of files, texts and numbers, joined to conditions.
-/

namespace TestWeaver.Utility

open FileTree (Node)
open Decimal (Real)

/-! ### files -/

/-- Devices look like files in the tree, but are none. -/
def isDevice (t : FileTree) (path : Text) : Bool :=
  match FileTree.follow t.root t.here true (Raw.toText path) with
  | .ok ([d, _], some (.file _ _)) => d = "dev".toList
  | _ => false

def placeOf? (t : FileTree) (path : Text) : Option FileTree.Place :=
  match FileTree.follow t.root t.here true (Raw.toText path) with
  | .ok (place, some _) => some place
  | _ => none

/-- Whether what a name leads to has a property that is known by a letter. -/
def fileIs (t : FileTree) (letter : Char) (path : Text) : Bool :=
  let node := Pattern.nodeAt? t true path
  match letter with
  | 'e' | 'a' | 'r' | 'w' | 'O' | 'G' => node.isSome
  | 'f' => node.any Node.isFile && !isDevice t path
  | 'd' => node.any Node.isDir
  | 'c' => isDevice t path
  | 's' =>
    match node with
    | some (.file bs _) => bs ≠ []
    | some _ => true
    | none => false
  | 'x' =>
    match node with
    | some (.file _ x) => x
    | some _ => true
    | none => false
  | 'h' | 'L' =>
    match Pattern.nodeAt? t false path with
    | some (.link _) => true
    | _ => false
  | _ => false

/-- The tree keeps no times: what is there is newer than what is not. -/
def filesAre (t : FileTree) (op a b : Text) : Bool :=
  let pa := placeOf? t a
  let pb := placeOf? t b
  match String.ofList op with
  | "-nt" => pa.isSome && pb.isNone
  | "-ot" => pa.isNone && pb.isSome
  | _ => pa.isSome && pa = pb

/-! ### conditions -/

inductive Operator where
  | unary
  | binary
  | negation
  | joining
  | paren
deriving DecidableEq

def unaryLetters : Text := "rwxefdcbpugksztnhOGLS".toList

def binaryOperators : List String :=
  ["=", "!=", "<", ">", "-eq", "-ne", "-gt", "-lt", "-ge", "-le", "-nt", "-ot", "-ef"]

def moreOperators (f : Flavour) : List String := if f = .plain then [] else ["=="]

def operator? (f : Flavour) (s : Text) : Option Operator :=
  match s with
  | ['-', c] =>
    if c = 'a' || c = 'o' then some .joining
    else if unaryLetters.contains c then some .unary
    else if f = .bash && (c = 'v' || c = 'N' || c = 'R') then some .unary
    else none
  | ['!'] => some .negation
  | ['('] | [')'] => some .paren
  | _ =>
    if (binaryOperators ++ moreOperators f).any fun o => o.toList = s then some .binary else none

/-- What a condition is asked of. -/
structure Facts where
  flavour : Flavour
  tree : FileTree
  isSet : Text → Bool := fun _ => false
  /-- Whether a setting is on. -/
  isOn : Text → Bool := fun _ => false

inductive ConditionFault where
  | message (m : Text)
deriving DecidableEq

abbrev Answer := Except ConditionFault

def wrong {α : Type} (m : Text) : Answer α := .error (.message m)

/-- A whole number with blanks around it. -/
def wholeNumber (f : Flavour) (s : Text) : Answer Int :=
  let bad : Answer Int :=
    match f with
    | .plain => wrong ("Illegal number: ".toList ++ s)
    | .bash => wrong (s ++ ": integer expression expected".toList)
    | .tool => wrong ("invalid integer ".toList ++ curly s)
  let t := s.dropWhile Real.isBlank
  let (negative, t) : Bool × Text :=
    match t with
    | '-' :: r => (true, r)
    | '+' :: r => (false, r)
    | r => (false, r)
  let ds := t.takeWhile Char.isDigit
  if ds = [] || !(t.drop ds.length).all Real.isBlank then bad
  else
    let n : Int := Real.natIn 10 ds
    let n := if negative then -n else n
    if f = .plain && (greatestInt < n || n < -greatestInt - 1) then bad else .ok n

def applyUnary (k : Facts) (op a : Text) : Answer Bool :=
  match op with
  | ['-', 'z'] => .ok (a = [])
  | ['-', 'n'] => .ok (a ≠ [])
  | ['-', 't'] => if k.flavour = .bash then .ok false else (wholeNumber k.flavour a).map fun _ => false
  | ['-', 'v'] => .ok (k.isSet a)
  | ['-', c] => .ok (fileIs k.tree c a)
  | _ => .ok false

def applyBinary (k : Facts) (a op b : Text) : Answer Bool :=
  let numbers := fun (f : Int → Int → Bool) => do
    let x ← wholeNumber k.flavour a
    let y ← wholeNumber k.flavour b
    return f x y
  match String.ofList op with
  | "=" | "==" => .ok (a = b)
  | "!=" => .ok (a ≠ b)
  | "<" => .ok (a < b)
  | ">" => .ok (b < a)
  | "-eq" => numbers (· == ·)
  | "-ne" => numbers (· != ·)
  | "-gt" => numbers (· > ·)
  | "-lt" => numbers (· < ·)
  | "-ge" => numbers (· ≥ ·)
  | "-le" => numbers (· ≤ ·)
  | _ => .ok (filesAre k.tree op a b)

def isOperand (f : Flavour) : List Text → Bool
  | _ :: s :: _ :: _ => operator? f s = some .binary
  | [_, _] => false
  | _ => true

/-- What kind of operator the first word is, if it is one where it stands. -/
def lex (f : Flavour) (ws : List Text) : Option (Text × Operator) :=
  match ws with
  | [] => none
  | s :: r =>
    match operator? f s with
    | none => none
    | some o =>
      if o = .unary && isOperand f ws then none
      else if s = ['('] && r = [] then none
      else some (s, o)

mutual

/-- Conditions joined by "or"; gives the words from the last one that was used. -/
def orFrom (k : Facts) : Nat → List Text → Answer (Bool × List Text)
  | 0, ws => .ok (false, ws)
  | n + 1, ws => do
    let (a, ws) ← andFrom k n ws
    if (lex k.flavour (ws.drop 1)).map (·.1) = some ['-', 'o'] then
      let (b, ws) ← orFrom k n (ws.drop 2)
      return (a || b, ws)
    else return (a, ws)

def andFrom (k : Facts) : Nat → List Text → Answer (Bool × List Text)
  | 0, ws => .ok (false, ws)
  | n + 1, ws => do
    let (a, ws) ← notFrom k n ws
    if (lex k.flavour (ws.drop 1)).map (·.1) = some ['-', 'a'] then
      let (b, ws) ← andFrom k n (ws.drop 2)
      return (a && b, ws)
    else return (a, ws)

def notFrom (k : Facts) : Nat → List Text → Answer (Bool × List Text)
  | 0, ws => .ok (false, ws)
  | n + 1, ws => do
    match lex k.flavour ws with
    | some (_, .negation) =>
      if ws.length ≤ 1 then
        return (true, ws)
      else
        let (a, ws) ← notFrom k n (ws.drop 1)
        return (!a, ws)
    | _ => primary k n ws

def primary (k : Facts) : Nat → List Text → Answer (Bool × List Text)
  | 0, ws => .ok (false, ws)
  | n + 1, ws => do
    match ws with
    | [] => return (false, [])
    | w :: r =>
      match lex k.flavour ws with
      | some (['('], _) =>
        if r.head? = some [')'] then return (false, r)
        else
          let (a, ws) ← orFrom k n r
          if (ws.drop 1).head? = some [')'] then return (a, ws.drop 1)
          else wrong "closing paren expected".toList
      | some (op, .unary) =>
        match r with
        | [] => wrong (op ++ ": argument expected".toList)
        | a :: _ => return (← applyUnary k op a, r)
      | _ =>
        match lex k.flavour r with
        | some (op, .binary) =>
          match r.drop 1 with
          | [] => wrong (op ++ ": argument expected".toList)
          | b :: bs => return (← applyBinary k w op b, b :: bs)
        | _ => return (w ≠ [], ws)

end

/-- Whether a condition holds, all words of which must be used. -/
def plainCondition (k : Facts) : Nat → List Text → Answer Bool
  | 0, _ => .ok false
  | n + 1, ws => do
    let fuel := ws.length * 4 + 8
    let finish := fun ((a, rest) : Bool × List Text) =>
      match rest with
      | x :: _ :: _ => if x = [] then wrong "unexpected operator".toList
        else wrong (x ++ ": unexpected operator".toList)
      | _ => .ok a
    match ws with
    | [] => return false
    | [a, op, b] =>
      if operator? k.flavour op = some .binary then return ← applyBinary k a op b
      else if a = ['('] && b = [')'] then finish (← orFrom k fuel [op])
      else if a = ['!'] then return !(← plainCondition k n [op, b])
      else finish (← orFrom k fuel ws)
    | [a, b, c, d] =>
      if a = ['('] && d = [')'] then finish (← orFrom k fuel [b, c])
      else if a = ['!'] then return !(← plainCondition k n [b, c, d])
      else finish (← orFrom k fuel ws)
    | _ => finish (← orFrom k fuel ws)

/-- The condition of other programs, whose meaning hangs on the number of words. -/
def countedCondition (k : Facts) : Nat → List Text → Answer Bool
  | 0, _ => .ok false
  | n + 1, ws => do
    let unaryFault : Text → Answer Bool := fun op =>
      match k.flavour with
      | .bash => wrong (op ++ ": unary operator expected".toList)
      | _ => wrong (curly op ++ ": unary operator expected".toList)
    let binaryFault : Text → Answer Bool := fun op =>
      match k.flavour with
      | .bash => wrong (op ++ ": binary operator expected".toList)
      | _ => wrong (curly op ++ ": binary operator expected".toList)
    match ws with
    | [] => return false
    | [a] => return a ≠ []
    | [op, a] =>
      if op = ['!'] then return a = []
      else if operator? k.flavour op = some .unary || op = "-a".toList || op = "-o".toList then
        if op = "-o".toList then
          if k.flavour = .bash then return k.isOn a else unaryFault op
        else applyUnary k op a
      else unaryFault op
    | [a, op, b] =>
      if operator? k.flavour op = some .binary then applyBinary k a op b
      else if op = "-a".toList then return a ≠ [] && b ≠ []
      else if op = "-o".toList then return a ≠ [] || b ≠ []
      else if a = ['!'] then return !(← countedCondition k n [op, b])
      else if a = ['('] && b = [')'] then return op ≠ []
      else binaryFault op
    | a :: r =>
      if ws.length = 4 && a = ['!'] then return !(← countedCondition k n r)
      else if ws.length = 4 && a = ['('] && ws.getLast? = some [')'] then
        countedCondition k n r.dropLast
      else
        let (v, rest) ← orFrom k (ws.length * 4 + 8) ws
        match rest with
        | _ :: x :: _ =>
          if k.flavour = .bash then wrong "too many arguments".toList
          else wrong ("extra argument ".toList ++ curly x)
        | _ => return v

/-- Whether the words are a condition that holds. -/
def holds (k : Facts) (ws : List Text) : Answer Bool :=
  if k.flavour = .plain then plainCondition k (ws.length + 2) ws
  else countedCondition k (ws.length + 2) ws

end TestWeaver.Utility
