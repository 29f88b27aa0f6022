import TestWeaver.Shell.Token

/-!
Sums in scripts: whole numbers of 64 bits, with the operators of the C language.

`eval` reads and computes in one pass. What a part comes to that is not needed, such as the
right side of `0 && …`, is read but not computed: nothing is assigned or divided there.
-/

namespace TestWeaver.Shell.Arithmetic

/-- A number as 64 bits hold it. -/
def wrap (n : Int) : Int := Int.bmod n 18446744073709551616

/-- The greatest number, which larger ones that are written down become. -/
def greatest : Int := 9223372036854775807

def least : Int := -9223372036854775808

def clamp (n : Int) : Int := if n < least then least else if greatest < n then greatest else n

inductive Fault where
  | expecting (what : String)
  | divided (rest : Text)
  | number (s : Text)
  | operand (rest : Text)
  | trailing (rest : Text)
  | greatBase (s : Text)
  | badBase (s : Text)
  | negativePower (rest : Text)
  | assignment (rest : Text)
  | readonly (name : Text)
  | unset (name : Text)
deriving DecidableEq, Repr

def inParens (rest : Text) : Text := " (error token is \"".toList ++ rest ++ "\")".toList

/-- What is said of a fault in an expression. -/
def Fault.message (text : Text) (f : Fault) : Text :=
  let source := text.dropWhile fun c => c = ' ' || c = '\t' || c = '\n'
  match f with
  | expecting what =>
    "arithmetic expression: ".toList ++ what.toList ++ ": \"".toList ++ source ++ ['"']
  | number s => "Illegal number: ".toList ++ s
  | divided r => source ++ ": division by 0".toList ++ inParens r
  | operand r => source ++ ": syntax error: operand expected".toList ++ inParens r
  | trailing r => source ++ ": syntax error in expression".toList ++ inParens r
  | greatBase s => s ++ ": value too great for base".toList ++ inParens s
  | badBase s => s ++ ": invalid arithmetic base".toList ++ inParens s
  | negativePower r => source ++ ": exponent less than 0".toList ++ inParens r
  | assignment r => source ++ ": attempted assignment to non-variable".toList ++ inParens r
  | readonly n => n ++ ": is read only".toList
  | unset n => n ++ ": unbound variable".toList

inductive Symbol where
  | number (n : Int)
  | name (s : Text) (index : Option Text)
  | op (s : String)
  | bad
deriving DecidableEq

/-- A symbol, and the text from it on. -/
structure Lexeme where
  symbol : Symbol
  rest : Text

def operators : List String :=
  ["<<=", ">>=", "&&", "||", "==", "!=", "<=", ">=", "<<", ">>", "+=", "-=", "*=", "/=", "%=",
    "&=", "^=", "|=", "+", "-", "*", "/", "%", "<", ">", "&", "|", "^", "!", "~", "?", ":", "=",
    "(", ")"]

def bashOperators : List String := ["++", "--", "**", ","] ++ operators

def isSpace (c : Char) : Bool := c = ' ' || (9 ≤ c.toNat && c.toNat ≤ 13)

/-- The value of a digit in a base of at most 64. -/
def digitIn? (base : Nat) (c : Char) : Option Nat :=
  let v? : Option Nat :=
    if c.isDigit then some (c.toNat - 48)
    else if 'a' ≤ c && c ≤ 'z' then some (c.toNat - 87)
    else if 'A' ≤ c && c ≤ 'Z' then some (if base ≤ 36 then c.toNat - 55 else c.toNat - 29)
    else if c = '@' then some 62
    else if c = '_' then some 63
    else none
  v?.filter (· < base)

def valueIn (base : Nat) (s : Text) : Nat :=
  s.foldl (fun n c => n * base + (digitIn? base c).getD 0) 0

def splitNumber (base : Nat) (s : Text) : Text × Text :=
  s.span fun c => (digitIn? base c).isSome

/-- A number in front of a text, read as C does: hexadecimal behind `0x`, octal behind `0`. -/
def leading (s : Text) : Nat × Text :=
  match s with
  | '0' :: x :: d :: r =>
    if (x = 'x' || x = 'X') && (digitIn? 16 d).isSome then
      let (ds, r) := splitNumber 16 (d :: r)
      (valueIn 16 ds, r)
    else
      let (ds, r) := splitNumber 8 s
      (valueIn 8 ds, r)
  | '0' :: _ =>
    let (ds, r) := splitNumber 8 s
    (valueIn 8 ds, r)
  | _ =>
    let (ds, r) := splitNumber 10 s
    (valueIn 10 ds, r)

/-- The text of a variable as a number: blanks and a sign may stand in front, blanks behind. -/
def number? (s : Text) : Option Int :=
  let t := s.dropWhile isSpace
  let (negative, ds) :=
    match t with
    | '-' :: r => (true, r)
    | '+' :: r => (false, r)
    | r => (false, r)
  let (n, rest) := leading ds
  let m : Int := if negative then -n else n
  if ds.head?.any Char.isDigit then
    if rest.all isSpace then (if m < least || greatest < m then none else some m) else none
  else if t = [] then some 0
  else none

/-- A constant in a bash expression, of which all letters belong to it. -/
def constant (s : Text) : Except Fault Int :=
  match Text.cut? ['#'] s with
  | some (b, ds) =>
    let base := valueIn 10 b
    if base < 2 || 64 < base then .error (.badBase s)
    else if ds.all fun c => (digitIn? base c).isSome then .ok (wrap (valueIn base ds))
    else .error (.greatBase s)
  | none =>
    match s with
    | '0' :: x :: ds =>
      if x = 'x' || x = 'X' then
        if ds.all fun c => (digitIn? 16 c).isSome then .ok (wrap (valueIn 16 ds))
        else .error (.greatBase s)
      else if (x :: ds).all fun c => (digitIn? 8 c).isSome then .ok (wrap (valueIn 8 (x :: ds)))
      else .error (.greatBase s)
    | _ =>
      if s.all Char.isDigit then .ok (wrap (valueIn 10 s)) else .error (.greatBase s)

/-- The text up to the bracket that closes one. -/
def untilBracket : Nat → Text → Text
  | _, [] => []
  | d, c :: r =>
    if c = ']' then (match d with
      | 0 => []
      | d + 1 => c :: untilBracket d r)
    else c :: untilBracket (if c = '[' then d + 1 else d) r

def lexemes (bash : Bool) : Nat → Text → Except Fault (List Lexeme)
  | 0, _ => .ok []
  | n + 1, s => do
    match s with
    | [] => return []
    | c :: r =>
      if isSpace c then lexemes bash n r
      else if isNameStart c then
        let name := s.takeWhile isNameChar
        let rest := s.drop name.length
        match if bash then rest else [] with
        | '[' :: t =>
          let i := untilBracket 0 t
          return ⟨.name name (some i), s⟩ :: (← lexemes bash n (t.drop (i.length + 1)))
        | _ => return ⟨.name name none, s⟩ :: (← lexemes bash n rest)
      else if c.isDigit then
        if bash then
          let t := s.takeWhile fun c => isNameChar c || c = '#' || c = '@'
          return ⟨.number (← constant t), s⟩ :: (← lexemes bash n (s.drop t.length))
        else
          let (v, rest) := leading s
          return ⟨.number (clamp v), s⟩ :: (← lexemes bash n rest)
      else
        match (if bash then bashOperators else operators).find? fun o => Text.startsWith s o.toList with
        | some o => return ⟨.op o, s⟩ :: (← lexemes bash n (s.drop o.length))
        | none => return ⟨.bad, s⟩ :: (← lexemes bash n r)

/-- A variable, or an element of an array. -/
abbrev Place := Text × Option Int

/-- What is known of variables from outside. -/
structure Scope where
  bash : Bool
  value : Place → Option Text
  /-- Whether a variable without a value is a fault. -/
  strict : Bool := false

structure State where
  rest : List Lexeme
  /-- The text from the symbol on that was read last. -/
  behind : Text := []
  /-- The last assignment first. -/
  assigned : List (Place × Int) := []

abbrev Eval := StateT State (Except Fault)

def fault {α : Type} (f : Fault) : Eval α := throw f

def head? : Eval (Option Symbol) := do return (← get).rest.head?.map (·.symbol)

def textHere : Eval Text := do return ((← get).rest.head?.map (·.rest)).getD []

def drop : Eval Unit := modify fun s => { s with
  rest := s.rest.drop 1, behind := (s.rest.head?.map (·.rest)).getD s.behind }

/-- Reads an operator if it comes next. -/
def accept (o : String) : Eval Bool := do
  if (← head?) = some (.op o) then
    drop
    return true
  else return false

/-- The binary operators by how loosely they bind. -/
def levels : List (List String) :=
  [["||"], ["&&"], ["|"], ["^"], ["&"], ["==", "!="], ["<=", ">=", "<", ">"], ["<<", ">>"],
    ["+", "-"], ["*", "/", "%"]]

def ofBool (b : Bool) : Int := if b then 1 else 0

/-- A number as 64 bits without a sign. -/
def bits (n : Int) : Nat := (n % 18446744073709551616).toNat

def bitwise (f : Nat → Nat → Nat) (a b : Int) : Int := wrap (f (bits a) (bits b))

/-- Shifts move by at most 63 places, as the machine takes the amount. -/
def shiftAmount (b : Int) : Nat := (b % 64).toNat

def binary (o : String) (rest : Text) (bash : Bool) (a b : Int) : Except Fault Int :=
  let divided := fun (f : Int → Int → Int) =>
    if b = 0 then .error (if bash then .divided rest else .expecting "division by zero")
    else .ok (wrap (f a b))
  match o with
  | "||" => .ok (ofBool (a ≠ 0 || b ≠ 0))
  | "&&" => .ok (ofBool (a ≠ 0 && b ≠ 0))
  | "|" => .ok (bitwise Nat.lor a b)
  | "^" => .ok (bitwise Nat.xor a b)
  | "&" => .ok (bitwise Nat.land a b)
  | "==" => .ok (ofBool (a = b))
  | "!=" => .ok (ofBool (a ≠ b))
  | "<" => .ok (ofBool (a < b))
  | ">" => .ok (ofBool (a > b))
  | "<=" => .ok (ofBool (a ≤ b))
  | ">=" => .ok (ofBool (a ≥ b))
  | "<<" => .ok (wrap (a * Nat.pow 2 (shiftAmount b)))
  | ">>" => .ok (Int.fdiv a (Nat.pow 2 (shiftAmount b)))
  | "+" => .ok (wrap (a + b))
  | "-" => .ok (wrap (a - b))
  | "*" => .ok (wrap (a * b))
  | "/" => divided Int.tdiv
  | "%" => divided Int.tmod
  | _ => .ok 0

def power (a : Int) : Nat → Int
  | 0 => 1
  | n + 1 => wrap (a * power a n)

/-- Assigning operators, with the operator that each one uses. -/
def assigning : List (String × String) :=
  [("=", ""), ("+=", "+"), ("-=", "-"), ("*=", "*"), ("/=", "/"), ("%=", "%"), ("<<=", "<<"),
    (">>=", ">>"), ("&=", "&"), ("^=", "^"), ("|=", "|")]

mutual

/-- A whole expression: in bash, parts between commas, of which the last one counts. -/
def sequence (e : Scope) : Nat → Bool → Eval Int
  | 0, _ => return 0
  | n + 1, skip => do
    let a ← assignment e n skip
    if ← accept "," then sequence e n skip else return a

def assignment (e : Scope) : Nat → Bool → Eval Int
  | 0, _ => return 0
  | n + 1, skip => do
    match (← get).rest with
    | ⟨.name x i, _⟩ :: ⟨.op o, rest⟩ :: _ =>
      match assigning.lookup o with
      | none => conditional e n skip
      | some f =>
        drop
        drop
        let b ← assignment e n skip
        if skip then return b
        let place ← placeOf e n x i
        let v ← if f = "" then pure b else do
          let a ← value e n place
          match binary f (rest.drop o.length) e.bash a b with
          | .ok v => pure v
          | .error x => fault x
        modify fun s => { s with assigned := (place, v) :: s.assigned }
        return v
    | _ => conditional e n skip

def conditional (e : Scope) : Nat → Bool → Eval Int
  | 0, _ => return 0
  | n + 1, skip => do
    let a ← level e n 0 skip
    if ← accept "?" then
      let b ← if e.bash then sequence e n (skip || a = 0) else assignment e n (skip || a = 0)
      if !(← accept ":") then
        if e.bash then fault (.expecting "':' expected for conditional expression")
        else fault (.expecting "expecting ':'")
      let c ← conditional e n (skip || a ≠ 0)
      return if a ≠ 0 then b else c
    else return a

/-- Operators of a level and of those that bind more tightly. -/
def level (e : Scope) : Nat → Nat → Bool → Eval Int
  | 0, _, _ => return 0
  | n + 1, l, skip => do
    match levels[l]? with
    | none => if e.bash then raised e n skip else unary e n skip
    | some ops =>
      let a ← level e n (l + 1) skip
      levelRest e n l ops skip a

def levelRest (e : Scope) : Nat → Nat → List String → Bool → Int → Eval Int
  | 0, _, _, _, a => return a
  | n + 1, l, ops, skip, a => do
    match ← head? with
    | some (.op o) =>
      if ops.contains o then
        drop
        let rest ← textHere
        let unneeded := (o = "||" && a ≠ 0) || (o = "&&" && a = 0)
        let b ← level e n (l + 1) (skip || unneeded)
        if skip then levelRest e n l ops skip a
        else
          match binary o rest e.bash a b with
          | .ok v => levelRest e n l ops skip v
          | .error x => fault x
      else return a
    | _ => return a

def raised (e : Scope) : Nat → Bool → Eval Int
  | 0, _ => return 0
  | n + 1, skip => do
    let a ← unary e n skip
    if ← accept "**" then
      let rest ← textHere
      let b ← raised e n skip
      if b < 0 then (if skip then return 0 else fault (.negativePower rest))
      else return power a b.toNat
    else return a

def unary (e : Scope) : Nat → Bool → Eval Int
  | 0, _ => return 0
  | n + 1, skip => do
    let rest ← textHere
    match ← head? with
    | some (.op "+") =>
      drop
      unary e n skip
    | some (.op "-") =>
      drop
      return wrap (-(← unary e n skip))
    | some (.op "!") =>
      drop
      return ofBool ((← unary e n skip) = 0)
    | some (.op "~") =>
      drop
      return -(← unary e n skip) - 1
    | some (.op "++") =>
      drop
      step e n skip 1
    | some (.op "--") =>
      drop
      step e n skip (-1)
    | some (.op "(") =>
      drop
      let a ← if e.bash then sequence e n skip else assignment e n skip
      if ← accept ")" then return a
      else if e.bash then fault (.expecting "missing \x60)'")
      else fault (.expecting "expecting ')'")
    | some (.number v) =>
      drop
      return v
    | some (.name x i) =>
      drop
      if skip then return 0
      let place ← placeOf e n x i
      let v ← value e n place
      match ← head? with
      | some (.op "++") =>
        drop
        modify fun s => { s with assigned := (place, wrap (v + 1)) :: s.assigned }
        return v
      | some (.op "--") =>
        drop
        modify fun s => { s with assigned := (place, wrap (v - 1)) :: s.assigned }
        return v
      | _ => return v
    | _ =>
      let behind := (← get).behind
      if e.bash then fault (.operand (if rest = [] then behind else rest))
      else fault (.expecting "expecting primary")

/-- A variable with a sign doubled in front of it. In front of anything else these are signs. -/
def step (e : Scope) : Nat → Bool → Int → Eval Int
  | 0, _, _ => return 0
  | n + 1, skip, d => do
    match ← head? with
    | some (.name x i) =>
      drop
      if skip then return 0
      let place ← placeOf e n x i
      let v := wrap ((← value e n place) + d)
      modify fun s => { s with assigned := (place, v) :: s.assigned }
      return v
    | _ => unary e n skip

/-- The place that a name means, of which the subscript is a sum of its own. -/
def placeOf (e : Scope) : Nat → Text → Option Text → Eval Place
  | 0, x, _ => return (x, none)
  | n + 1, x, i => do
    match i with
    | none => return (x, none)
    | some t => return (x, some (← inner e n t))

/-- The value of a variable; in bash its text is a sum again. -/
def value (e : Scope) : Nat → Place → Eval Int
  | 0, _ => return 0
  | n + 1, place => do
    match (← get).assigned.lookup place with
    | some v => return v
    | none =>
      match e.value place with
      | none => if e.strict then fault (.unset place.1) else return 0
      | some t =>
        if e.bash then inner e n t
        else
          match number? t with
          | some v => return v
          | none => fault (.number t)

/-- The value of a text inside another one. -/
def inner (e : Scope) : Nat → Text → Eval Int
  | 0, _ => return 0
  | n + 1, t => do
    let before := (← get).rest
    match lexemes e.bash (t.length + 1) t with
    | .error x => fault x
    | .ok [] => return 0
    | .ok ls =>
      modify fun s => { s with rest := ls }
      let v ← sequence e n false
      let after := (← get).rest
      if after.isEmpty then
        modify fun s => { s with rest := before }
        return v
      else fault (.trailing ((after.head?.map (·.rest)).getD []))

end

/-- How deep expressions may be nested. -/
def fuel : Nat := 100000

/-- The value of an expression, and what is assigned in it, the first assignment first. -/
def eval (e : Scope) (s : Text) : Except Fault (Int × List (Place × Int)) := do
  let ls ← lexemes e.bash (s.length + 1) s
  if e.bash && ls.isEmpty then return (0, [])
  let (v, t) ← ((if e.bash then sequence e fuel false else assignment e fuel false).run
    { rest := ls })
  if t.rest.isEmpty then return (v, t.assigned.reverse)
  else if e.bash then
    let rest := (t.rest.head?.map (·.rest)).getD []
    throw (if (t.rest.head?.map (·.symbol)) = some (.op "=") then .assignment rest
      else .trailing rest)
  else throw (.expecting "expecting EOF")

end TestWeaver.Shell.Arithmetic
