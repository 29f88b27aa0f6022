import TestWeaver.Text.Digit
import TestWeaver.Text.Quoted

/-!
Command lines.

A grammar has options, each with one or more names, and slots for the words that are no options.
Words are told apart first, each one on its own: what starts with a dash is an option, unless it
looks like a negative number or holds a space, and behind two dashes nothing is. Then options and
slots are filled from left to right. Long names may be cut short, a value may follow an equals
sign, and flags of one letter may be written together.
-/

namespace TestWeaver.CommandLine

inductive Key where
  | help
  | verbose
  | logFile
  | root
  | override
  | write
  | backup
  | target
deriving DecidableEq, Repr

def Key.takesValue : Key → Bool
  | .logFile | .root | .override | .target => true
  | _ => false

/-- How many words a slot takes: one, at most one, or one and all that follow. -/
inductive SlotSize where
  | one
  | optional
  | rest
deriving DecidableEq, Repr

structure Slot where
  name : Text
  size : SlotSize
deriving DecidableEq, Repr

structure Grammar where
  program : Text
  options : List (Text × Key)
  slots : List Slot

/-- Why a command line is not carried out: a fault in it, or a request for help. -/
inductive Stop where
  | fault (program message : Text)
  | help (program : Text)
deriving DecidableEq, Repr

def Stop.message : Stop → Text
  | fault p m => p ++ ": error: ".toList ++ m
  | help p => "usage: ".toList ++ p

/-! ### words -/

/-- A word taken as an option: its full name, and a value that is part of the word. -/
structure Hit where
  name : Text
  key : Key
  value : Option Text := none
deriving DecidableEq, Repr

inductive Word where
  | dashes
  | plain (s : Text)
  | option (s : Text) (hit : Option Hit)
deriving DecidableEq, Repr

namespace Word

def text : Word → Text
  | dashes => ['-', '-']
  | plain s | option s _ => s

def isOption : Word → Bool
  | option _ _ => true
  | _ => false

def isPlain : Word → Bool
  | plain _ => true
  | _ => false

end Word

namespace Grammar

def fault {α : Type} (g : Grammar) (message : Text) : Except Stop α :=
  .error (.fault g.program message)

/-- All names of an option. -/
def title (g : Grammar) (k : Key) : Text :=
  List.intercalate ['/'] ((g.options.filter fun o => o.2 = k).map (·.1))

def optionFault {α : Type} (g : Grammar) (k : Key) (message : Text) : Except Stop α :=
  g.fault ("argument ".toList ++ g.title k ++ ": ".toList ++ message)

def ignored {α : Type} (g : Grammar) (k : Key) (value : Text) : Except Stop α :=
  g.optionFault k ("ignored explicit argument ".toList ++ Text.quoted value)

def lookup (g : Grammar) (name : Text) : Option Key := g.options.lookup name

/-- The options that a word can mean which is no full name. -/
def candidates (g : Grammar) (word : Text) : List Hit :=
  let cut := Text.cut? ['='] word
  if Text.startsWith word ['-', '-'] then
    let start := (cut.map (·.1)).getD word
    (g.options.filter fun o => Text.startsWith o.1 start).map fun o =>
      ⟨o.1, o.2, cut.map (·.2)⟩
  else
    g.options.filterMap fun o =>
      if o.1 = word.take 2 then some ⟨o.1, o.2, some (word.drop 2)⟩
      else if Text.startsWith o.1 word then some ⟨o.1, o.2, none⟩
      else none

def isDigit (c : Char) : Bool := (Text.digit? c).isSome

/-- A dash, then digits with at most one point, which digits follow. -/
def isNegativeNumber : Text → Bool
  | '-' :: s =>
    let s := if s.getLast? = some '\n' then s.dropLast else s
    match s.dropWhile isDigit with
    | [] => s ≠ []
    | '.' :: f => f ≠ [] && f.all isDigit
    | _ => false
  | _ => false

def hit? (g : Grammar) (word : Text) : Option Hit :=
  match g.lookup word with
  | some k => some { name := word, key := k }
  | none => do
    let (name, value) ← Text.cut? ['='] word
    let k ← g.lookup name
    return ⟨name, k, some value⟩

def ambiguous (word : Text) (hits : List Hit) : Text :=
  "ambiguous option: ".toList ++ word ++ " could match ".toList ++
    List.intercalate ", ".toList (hits.map (·.name))

def wordOf (g : Grammar) (s : Text) : Except Stop Word :=
  if s.head? ≠ some '-' then .ok (.plain s)
  else
    match g.hit? s with
    | some h => .ok (.option s (some h))
    | none =>
      if s = ['-'] then .ok (.plain s)
      else
        match g.candidates s with
        | [h] => .ok (.option s (some h))
        | [] =>
          .ok (if isNegativeNumber s || s.contains ' ' then .plain s else .option s none)
        | hs => g.fault (ambiguous s hs)

def wordsOf (g : Grammar) : List Text → Except Stop (List Word)
  | [] => .ok []
  | s :: ss =>
    if s = ['-', '-'] then .ok (.dashes :: ss.map .plain)
    else do return (← g.wordOf s) :: (← g.wordsOf ss)

end Grammar

/-! ### filling -/

/-- What has been read: options with their values, the words of each filled slot, and the words
for which there is no place. A flag has no value, and neither has an option that is given two
dashes. -/
structure Reading where
  slots : List Slot
  options : List (Key × Option Text) := []
  filled : List (Text × List Text) := []
  extras : List Text := []

/-- How many words a slot takes from a list of words, if it can be filled. -/
def SlotSize.fit? (size : SlotSize) (ws : List Word) : Option Nat :=
  let before := (ws.takeWhile (· = .dashes)).length
  let rest := ws.drop before
  let plain := (rest.head?.map Word.isPlain).getD false
  let after := ((rest.drop 1).takeWhile (· = .dashes)).length
  match size with
  | .one => if plain then some (before + 1 + after) else none
  | .optional => some (if plain then before + 1 + after else before)
  | .rest => if plain then some ws.length else none

/-- Two dashes are no part of what a slot holds, unless it holds the rest. -/
def SlotSize.values (size : SlotSize) (ws : List Word) : List Text :=
  let ss := ws.map Word.text
  if size = .rest then ss else ss.erase ['-', '-']

/-- Fills as many slots as the words can; the words left over. -/
def Reading.fill (r : Reading) (ws : List Word) : List Slot → Reading × List Word
  | [] => ({ r with slots := [] }, ws)
  | slot :: slots =>
    match slot.size.fit? ws with
    | none => ({ r with slots := slot :: slots }, ws)
    | some n =>
      let values := slot.size.values (ws.take n)
      { r with filled := r.filled ++ [(slot.name, values)] }.fill (ws.drop n) slots

namespace Grammar

/-- Flags of one letter in one word: the first one is known, and so must the others be. -/
def flags (g : Grammar) (k : Key) : Text → Except Stop (List (Key × Option Text))
  | [] => .ok [(k, none)]
  | c :: s =>
    match g.lookup ['-', c] with
    | none => g.ignored k (c :: s)
    | some l => (g.flags l s).map fun os => (k, none) :: os

/-- The value that stands behind an equals sign. -/
def valueOf (s : Text) : Option Text := if s = ['-', '-'] then none else some s

/-- Reads an option: the options in the word, and how many of the words that follow are used
up. -/
def readOption (g : Grammar) (h : Hit) (following : List Word) :
    Except Stop (List (Key × Option Text) × Nat) :=
  match h.key.takesValue, h.value with
  | true, some v => .ok ([(h.key, valueOf v)], 0)
  | true, none =>
    match following with
    | .plain v :: _ => .ok ([(h.key, some v)], 1)
    | _ => g.optionFault h.key "expected one argument".toList
  | false, none => .ok ([(h.key, none)], 0)
  | false, some v =>
    if Text.startsWith h.name ['-', '-'] || v = [] then g.ignored h.key v
    else (g.flags h.key v).map fun os => (os, 0)

/-- Help is given as soon as it is asked for. -/
def take (g : Grammar) (r : Reading) (os : List (Key × Option Text)) : Except Stop Reading :=
  if os.any fun o => o.1 = .help then .error (.help g.program)
  else .ok { r with options := r.options ++ os }

def fillAll (r : Reading) (ws : List Word) : Reading :=
  let (r, ws) := r.fill ws r.slots
  { r with extras := r.extras ++ ws.map Word.text }

def readWords (g : Grammar) : Nat → Reading → List Word → Except Stop Reading
  | 0, r, ws => .ok (fillAll r ws)
  | n + 1, r, ws =>
    if !ws.any Word.isOption then .ok (fillAll r ws)
    else
      match ws with
      | .option s none :: ws => g.readWords n { r with extras := r.extras ++ [s] } ws
      | .option _ (some h) :: ws => do
        let (os, used) ← g.readOption h ws
        g.readWords n (← g.take r os) (ws.drop used)
      | ws =>
        let (r', rest) := r.fill ws r.slots
        if rest.length < ws.length then g.readWords n r' rest
        else
          let skipped := (ws.takeWhile fun w => !w.isOption).map Word.text
          g.readWords n { r' with extras := r'.extras ++ skipped }
            (ws.dropWhile fun w => !w.isOption)

/-- Reads a command line; every slot that must be filled is. -/
def read (g : Grammar) (line : List Text) : Except Stop Reading := do
  let ws ← g.wordsOf line
  let r ← g.readWords (2 * ws.length + 1) { slots := g.slots } ws
  let missing := r.slots.filter fun s => s.size ≠ .optional
  if missing = [] then return r
  else
    g.fault ("the following arguments are required: ".toList ++
      List.intercalate ", ".toList (missing.map (·.name)))

end Grammar

namespace Reading

/-- The value of an option that is given; of several the last one counts. -/
def option? (r : Reading) (k : Key) : Option (Option Text) := r.options.reverse.lookup k

def has (r : Reading) (k : Key) : Bool := (r.option? k).isSome

def words (r : Reading) (slot : String) : List Text := (r.filled.lookup slot.toList).getD []

def word? (r : Reading) (slot : String) : Option Text := (r.words slot).head?

def word (r : Reading) (slot : String) : Text := (r.word? slot).getD []

end Reading

end TestWeaver.CommandLine
