import TestWeaver.Shell.Runner

/-!
Redirections: streams that stand in for others, for one command or for good.

Words are expanded first; what goes wrong there ends the shell, while a file that cannot be
opened only fails the command.
-/

namespace TestWeaver.Shell

open Machine (Mode Refusal)
open FileTree (Cause)

/-- A redirection whose words are expanded. -/
inductive Opened where
  | file (stream : Nat) (way : Way) (name : Text)
  | duplicate (stream : Nat) (source : Option Nat)
  | text (stream : Nat) (t : Text)
  | both (append : Bool) (name : Text)
  /-- A word that is not one field. -/
  | unclear (source : Text)
  /-- The same for a free stream, whose number a variable gets. -/
  | named (name : Text) (o : Opened)

/-- Which stream a word names; a dash closes. -/
def sourceOf (t : Text) : Option (Option Nat) :=
  match t with
  | ['-'] => some none
  | [c] => if c.isDigit then some (some (c.toNat - 48)) else none
  | _ => none

/-- A stream in bash, of which the number may be longer. -/
def bashSourceOf (t : Text) : Option (Option Nat) :=
  if t = ['-'] then some none
  else if t ≠ [] && t.all Char.isDigit then some (some (Arithmetic.valueIn 10 t))
  else none

def prepareOne (e : Expander) : Redirect → Sh Opened
  | .file stream way w source => withFile w source (.file stream way)
  | .duplicate stream w source => do
    if (← get).bash then
      withFile w source fun t =>
        match bashSourceOf t with
        | some d => .duplicate stream d
        | none => if stream = 1 then .both false t else .unclear source
    else
      match sourceOf (← textOf e w) with
      | some d => return .duplicate stream d
      | none => fail "Syntax error: Bad fd number".toList
  | .text stream number => do
    match (← get).bodies.lookup number with
    | none => return .text stream []
    | some w => return .text stream (← rawTextOf e w)
  | .word stream w => return .text stream ((← textOf e w) ++ ['\n'])
  | .all append w source => withFile w source (.both append)
  | .named name r => return .named name (← prepareOne e r)
where
  /-- In bash the name of a file must be one field. -/
  withFile (w : Word) (source : Text) (f : Text → Opened) : Sh Opened := do
    if (← get).bash then
      match ← fieldsOf e w with
      | [t] => return f t
      | _ => return .unclear source
    else return f (← textOf e w)

def prepare (e : Expander) : List Redirect → Sh (List Opened)
  | [] => return []
  | d :: ds => do
    let a ← prepareOne e d
    return a :: (← prepare e ds)

/-- Why a file could not be opened, as shells say it. -/
def openTrouble (making : Bool) : Refusal → Text
  | .files .noEntry | .files .notDirectory =>
    (if making then "Directory nonexistent" else "No such file").toList
  | r => r.text

def modeOf (s : State) : Way → Mode
  | .read => .read
  | .write => if s.options.keeping then .fresh else .write
  | .overwrite => .write
  | .append => .append
  | .both => .both

/-- Streams that were set aside: each with the number that it has now, if it was open. -/
abbrev Aside := List (Nat × Option Nat)

/-- Sets a stream aside. -/
def setAside (stream : Nat) : Sh (Nat × Option Nat) := do
  match ← (Sh.call (.another stream 10) : Sh (Except Refusal Nat)) with
  | .ok n =>
    modify fun s => { s with kept := n :: s.kept }
    return (stream, some n)
  | .error _ => return (stream, none)

/-- Puts streams back in their places. -/
def putBack : Aside → Sh Unit
  | [] => return
  | (stream, kept) :: rest => do
    match kept with
    | some n =>
      let _ ← Sh.call (.copy n stream)
      Sh.call (.close n)
      modify fun s => { s with kept := s.kept.filter (· ≠ n) }
    | none => Sh.call (.close stream)
    putBack rest

/-- Lets the streams that were set aside go. -/
def forgetAside : Aside → Sh Unit
  | [] => return
  | (_, kept) :: rest => do
    if let some n := kept then
      Sh.call (.close n)
      modify fun s => { s with kept := s.kept.filter (· ≠ n) }
    forgetAside rest

def openFile (stream : Nat) (mode : Mode) (name : Text) : Sh Unit := do
  match ← (Sh.call (.openAs stream name mode) : Sh (Except Refusal Unit)) with
  | .ok _ => return
  | .error e =>
    if (← get).bash then
      fail (name ++ ": ".toList ++
        (if e = .files .exists then "cannot overwrite existing file".toList else e.text)) 1
    else
      let making := mode ≠ .read
      let verb := (if making then "create " else "open ").toList
      fail ("cannot ".toList ++ verb ++ name ++ ": ".toList ++ openTrouble making e)

/-- The same redirection of another stream. -/
def Opened.move (n : Nat) : Opened → Opened
  | .file _ way name => .file n way name
  | .duplicate _ source => .duplicate n source
  | .text _ t => .text n t
  | o => o

/-- The first number of a stream that is free, from one on. -/
def freeAbove : Nat → Nat → Sh Nat
  | 0, n => return n
  | k + 1, n => do
    let taken : Bool ← Sh.call (.isOpen n)
    if taken then freeAbove k (n + 1) else return n

def openPlain : Opened → Sh Unit
  | .file stream way name => do openFile stream (modeOf (← get) way) name
  | .both append name => do
    openFile 1 (modeOf (← get) (if append then .append else .write)) name
    let _ ← Sh.call (.copy 1 2)
  | .duplicate stream none => Sh.call (.close stream)
  | .duplicate stream (some n) => do
    match ← (Sh.call (.copy n stream) : Sh (Except Refusal Unit)) with
    | .ok _ => return
    | .error e => fail (Raw.ofNat n ++ ": ".toList ++ e.text)
  | .text stream t => do
    let (a, b) ← makePipe
    let _ ← Sh.call (.write b t)
    Sh.call (.close b)
    let _ ← Sh.call (.copy a stream)
    Sh.call (.close a)
  | .unclear source => fail (source ++ ": ambiguous redirect".toList)
  | .named .. => return

def openOne : Opened → Sh Unit
  | .named name (.duplicate _ none) => do
    match Arithmetic.number? ((← get).lookup name) with
    | some n => Sh.call (.close n.toNat)
    | none => openPlain (.unclear name)
  | .named name o => do
    let n ← freeAbove 1000 10
    openPlain (o.move n)
    assign name (Raw.ofNat n)
  | o => openPlain o

def streamsOf : Opened → List Nat
  | .file n _ _ | .duplicate n _ | .text n _ => [n]
  | .both _ _ => [1, 2]
  | .unclear _ | .named .. => []

/-- Opens all and says what was set aside, the last first. If one fails, all is put back. -/
def openAll (aside : Aside) : List Opened → Sh Aside
  | [] => return aside
  | o :: os => do
    let more ← (streamsOf o).mapM setAside
    let aside := more.reverse ++ aside
    tryCatch (openOne o) fun e => do
      putBack aside
      throw e
    openAll aside os

/-- Opens all; nothing if one of them fails. -/
def tryOpen (os : List Opened) : Sh (Option Aside) :=
  tryCatch (do return some (← openAll [] os)) fun
    | .failed => return none
    | e => throw e

end TestWeaver.Shell
