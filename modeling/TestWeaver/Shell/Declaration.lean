import TestWeaver.Pattern.Regex
import TestWeaver.Shell.Output

/-!
What bash alone has: arrays, declarations, and matching with expressions.
-/

namespace TestWeaver.Shell

open Pattern (Regex)

/-! ### assigning -/

/-- The number that a text is in a variable for whole numbers. -/
def wholeText (e : Expander) (t : Text) : Sh Text := do
  return Raw.ofInt (← wordSum e [.exact t])

def isWhole (s : State) (name : Text) : Bool := ((s.var? name).map (·.whole)).getD false

def assignValue (name t : Text) : Sh Unit := do
  if isWhole (← get) name then assign name (← wholeText .idle t)
  else assign name t

def appendText (name t : Text) : Sh Unit := do
  let s ← get
  if isWhole s name then
    assign name (← wholeText .idle (s.lookup name ++ '+' :: '(' :: t ++ [')']))
  else assign name (s.lookup name ++ t)

/-- The key and the value of a word such as `[k]=v`, and whether the value is added. -/
def keyed? (w : Word) : Option (Word × Bool × Word) :=
  match w with
  | .plain ('[' :: t) :: rest => cutSubscript (.plain t :: rest)
  | _ => none

/-- The items of an array that is written down, from a number on. -/
def arrayItems (e : Expander) : Int → List (Int × Text) → List Word → Sh (List (Int × Text))
  | _, acc, [] => return acc
  | next, acc, w :: ws => do
    match keyed? w with
    | some (k, append, v) =>
      let i ← wordSum e k
      let t ← assignedText e v
      let old := if append then (State.item? acc i).getD [] else []
      arrayItems e (i + 1) (State.putItem i (old ++ t) acc) ws
    | none =>
      let ts ← allFields e [w]
      let (next, acc) := ts.foldl (fun (n, xs) t => (n + 1, State.putItem n t xs)) (next, acc)
      arrayItems e next acc ws

/-- Entries of a table: keys in brackets with their values, or keys and values by turns. -/
def tableItems (e : Expander) : List (Text × Text) → List Word → Sh (List (Text × Text))
  | acc, [] => return acc
  | acc, w :: ws => do
    match keyed? w with
    | some (k, append, v) =>
      let key ← rawTextOf e k
      let t ← assignedText e v
      let old := if append then (acc.lookup key).getD [] else []
      tableItems e (State.setEntry key (old ++ t) acc) ws
    | none =>
      let key ← rawTextOf e w
      match ws with
      | [] => return State.setEntry key [] acc
      | v :: ws =>
        let t ← assignedText e v
        tableItems e (State.setEntry key t acc) ws

def assignArray (e : Expander) (name : Text) (append : Bool) (ws : List Word) : Sh Unit := do
  let old := ((← get).var? name).bind (·.value)
  match old with
  | some (.table xs) =>
    let items ← tableItems e (if append then xs else []) ws
    setValue name (.table items)
  | _ =>
    let before : List (Int × Text) :=
      if append then
        match old with
        | some (.items xs) => xs
        | some (.text t) => [(0, t)]
        | _ => []
      else []
    let next := before.foldl (fun m x => max m (x.1 + 1)) 0
    let items ← arrayItems e next before ws
    setValue name (.items items)

/-! ### declarations -/

/-- A key of a table, in quotes where it needs them. -/
def shownKey (k : Text) : Text := if k ≠ [] && k.all Utility.isSafe then k else doubleQuoted k

def declaredRow (name : Text) (v : Variable) : Text :=
  let value : Text :=
    match v.value with
    | none => []
    | some (.text t) => '=' :: doubleQuoted t
    | some (.items xs) =>
      "=(".toList ++ List.intercalate [' '] (xs.map fun (i, t) =>
        '[' :: Raw.ofInt i ++ "]=".toList ++ doubleQuoted t) ++ [')']
    | some (.table xs) =>
      "=(".toList ++ xs.flatMap (fun (k, t) =>
        '[' :: shownKey k ++ "]=".toList ++ doubleQuoted t ++ [' ']) ++ [')']
  let letters := attributeLetters v
  "declare -".toList ++ (if letters = [] then ['-'] else letters) ++ ' ' :: name ++ value ++ ['\n']

/-- Gives a variable the marks that letters stand for. -/
def markWith (letters : Text) (on : Bool) (v : Variable) : Variable :=
  letters.foldl (fun v c =>
    match c with
    | 'x' => { v with exported := on }
    | 'r' => { v with fixed := on || v.fixed }
    | 'i' => { v with whole := on }
    | 'n' => { v with link := on }
    | 'u' => { v with letters := if on then some true else v.letters.filter (· = false) }
    | 'l' => { v with letters := if on then some false else v.letters.filter (· = true) }
    | 'a' =>
      match v.value with
      | some (.text t) => { v with value := some (.items [(0, t)]) }
      | none => { v with value := some (.items []) }
      | _ => v
    | 'A' => if v.value.isNone then { v with value := some (.table []) } else v
    | _ => v) v

/-- Letters behind signs, and the other arguments. -/
def attributesFrom : List Text → Text × Text × List Text
  | ['-', '-'] :: rest => ([], [], rest)
  | ('-' :: c :: cs) :: rest =>
    let (on, off, names) := attributesFrom rest
    (c :: cs ++ on, off, names)
  | ('+' :: cs) :: rest =>
    let (on, off, names) := attributesFrom rest
    (on, cs ++ off, names)
  | rest => ([], [], rest)

def listDeclared (wanted : Variable → Bool) : Sh Unit := do
  let rows := (sortedNames (← get).vars).filter fun v => wanted v.2
  say (rows.flatMap fun (n, v) => declaredRow n v)

/-- Gives a name a new meaning inside the function that is run. -/
def makeFresh (append : Bool) (n : Text) : Sh Unit := do
  let s ← get
  let fresh := !((s.locals.headD []).any fun l => l.1 = n)
  makeLocal n
  if fresh && !append then
    modify fun s => { s with vars := s.vars.filter fun v => v.1 ≠ n }

/-- What is said after the name of what is declared, and whether it is added. -/
def cutDeclared (a : Text) : Text × Option Text × Bool :=
  match Text.cut? ['='] a with
  | some (n, t) => if n.getLast? = some '+' then (n.dropLast, some t, true) else (n, some t, false)
  | none => (a, none, false)

/-- Declares a variable with the marks that letters stand for, and those that it loses. -/
def declareOne (e : Expander) (word : String) (on off : Text) (a : Text) : Sh Unit := do
  let s ← get
  let (whole, t, append) := cutDeclared a
  let (n, index) := splitSubscript whole
  if !isName n then
    refuse 1 ('\x60' :: a ++ "': not a valid identifier".toList)
  else
    if word = "local" || (word = "declare" && s.isCalled && !on.contains 'g') then makeFresh append n
    let old := ((← get).ownVar? n).getD {}
    let words := s.lists.lookup a
    if old.fixed && (t.isSome || off.contains 'r') then
      refuse 1 (n ++ ": readonly variable".toList)
    else
      let isLink := on.contains 'n' || off.contains 'n'
      let marks := on.filter fun c => c ≠ 'r'
      let marks := if words.isSome && !on.contains 'A' then 'a' :: marks else marks
      modify fun s =>
        let n := if isLink then n else s.target n
        s.putOwn n (markWith marks true (markWith off false ((s.ownVar? n).getD {})))
      match t with
      | none => pure ()
      | some t =>
        if on.contains 'n' then
          modify fun s => s.putOwn n { (s.ownVar? n).getD {} with value := some (.text t) }
        else if let some i := index then assignTo e wordFuel (n ++ '[' :: i ++ [']']) t
        else
          match words with
          | some ws => assignArray e n append ws
          | none => if append then appendText n t else assignValue n t
      if on.contains 'r' then
        modify fun s => s.putVariable n { (s.var? n).getD {} with fixed := true }

/-- Shows what functions are there. -/
def listFunctions (on : Text) (names : List Text) : Sh Unit := do
  let s ← get
  let names := if names = [] then (s.functions.map (·.1)).mergeSort fun a b => !(b < a) else names
  for n in names do
    if (s.functions.lookup n).isSome then
      if on.contains 'F' then say ((if names.length = 1 then [] else "declare -f ".toList) ++ n ++ ['\n'])
    else setStatus 1

/-- The letters that a command takes which declares variables. -/
def declaring (word : String) : Text :=
  (match word with
    | "export" => "fnp"
    | "readonly" => "aAfp"
    | _ => "aAfFgiIlnprtux").toList

/-- Declares variables with marks, or shows what is declared. -/
def declareVariables (word : String) : Builtin := fun r _ args => do
  let e := expander r
  let (on, off, names) := attributesFrom args
  if let some c := (on ++ off).find? fun c => !(declaring word).contains c then
    misuse ('-' :: c :: ": invalid option".toList)
  let unexport := word = "export" && on.contains 'n'
  let off := if unexport then 'x' :: off else off
  let on := match word with
    | "export" => if unexport then on.filter (· ≠ 'n') else 'x' :: on
    | "readonly" => 'r' :: on
    | _ => on
  setStatus 0
  if word = "local" && !(← get).isCalled then
    refuse 1 "can only be used in a function".toList
  else if on.contains 'F' || on.contains 'f' then
    if word = "export" || word = "readonly" then
      for n in names do
        if ((← get).functions.lookup n).isNone then refuse 1 (n ++ ": not a function".toList)
    else listFunctions on names
  else if names = [] then
    listDeclared fun v =>
      match word with
      | "export" => v.exported
      | "readonly" => v.fixed
      | _ => on.all fun c => c = 'p' || (attributeLetters v).contains c
  else if on.contains 'p' && word ≠ "export" && word ≠ "readonly" then
    for n in names do
      match (← get).ownVar? n with
      | some v => say (declaredRow n v)
      | none => refuse 1 (n ++ ": not found".toList)
  else
    for n in names do
      declareOne e word on off n
    modify fun s => { s with lists := [] }

def letValues : Builtin := fun _ _ args => do
  let args := if args.head? = some "--".toList then args.drop 1 else args
  if args = [] then refused 1 "expression expected".toList
  let mut last : Int := 0
  for a in args do
    last ← wordSum .idle [.exact a]
  setStatus (if last = 0 then 1 else 0)

/-! ### expressions -/

/-- The text of an expression, in which what is quoted stands for itself. -/
def regexText (e : Expander) (w : Word) : Sh Text := do
  let bs ← bitsFrom e false false wordFuel w
  return bs.flatMap fun
    | .glyph c quoted _ =>
      if quoted && ".[]\\*^$+?\x7b\x7d|()".toList.contains c then ['\\', c] else [c]
    | _ => []

/-- Whether an expression matches somewhere; what its parts match is kept. -/
def matchExpression (t pattern : Text) : Sh Bool := do
  match Regex.ofText true pattern with
  | .error _ =>
    setStatus 2
    throw .failed
  | .ok r =>
    let s := t.toArray
    match Regex.searchFrom {} r s 0 with
    | none =>
      setValue "BASH_REMATCH".toList (.items [])
      return false
    | some x =>
      let parts := (List.range (Regex.groupCount r + 1)).map fun (n : Nat) =>
        ((n : Int), (x.group? s n).getD [])
      setValue "BASH_REMATCH".toList (.items parts)
      return true

end TestWeaver.Shell
