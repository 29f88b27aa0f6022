import TestWeaver.Utility.Content

/-!
Copying by blocks.
-/

namespace TestWeaver.Utility

open Machine (Refusal)

/-- What is copied, in which blocks, and how. -/
structure BlockCopy where
  source : Option Text := none
  target : Option Text := none
  input : Nat := 512
  output : Nat := 512
  count : Option Nat := none
  skip : Nat := 0
  seek : Nat := 0
  ways : List Text := []
  told : Text := []

/-- A number of octets, which may be a product. -/
def blockNumber? (t : Text) : Option Nat :=
  (Text.splitAt 'x' t).foldl (fun n p => n.bind fun n => (count? p).map (n * ·)) (some 1)

def blockOperand (b : BlockCopy) (a : Text) : Act BlockCopy := do
  match Text.cut? ['='] a with
  | none => misuse ("unrecognized operand ".toList ++ curly a)
  | some (name, value) =>
    let num := (do
      match blockNumber? value with
      | some n => return n
      | none => die ("invalid number: ".toList ++ curly value) : Act Nat)
    let size := (do
      let n ← num
      if n = 0 then die ("invalid number: ".toList ++ curly value)
      return n : Act Nat)
    match String.ofList name with
    | "if" => return { b with source := some value }
    | "of" => return { b with target := some value }
    | "bs" => do
      let n ← size
      return { b with input := n, output := n }
    | "ibs" => do return { b with input := ← size }
    | "obs" => do return { b with output := ← size }
    | "count" => do return { b with count := some (← num) }
    | "skip" | "iseek" => do return { b with skip := ← num }
    | "seek" | "oseek" => do return { b with seek := ← num }
    | "conv" => return { b with ways := Text.splitAt ',' value }
    | "status" => return { b with told := value }
    | "iflag" | "oflag" => return b
    | _ => misuse ("unrecognized operand ".toList ++ curly a)

/-- Whole and partial blocks of a size. -/
def blockCounts (size length : Nat) : Text :=
  Raw.ofNat (length / size) ++ '+' :: (if length % size = 0 then ['0'] else ['1'])

def dd : Program := fun args => do
  let b ← args.foldlM blockOperand {}
  let t ← match ← readFile (b.source.getD ['-']) with
    | .ok t => pure t
    | .error (.files .isDirectory) =>
      die ("error reading ".toList ++ inQuotes (b.source.getD []) ++ ": Is a directory".toList)
    | .error e => die ("failed to open ".toList ++ inQuotes (b.source.getD []) ++ ": ".toList ++ e.text)
  let t := t.drop (b.skip * b.input)
  let t := match b.count with
    | some n => t.take (n * b.input)
    | none => t
  let has := fun (w : String) => b.ways.contains w.toList
  let out := if has "ucase" then t.map Char.toUpper else if has "lcase" then t.map Char.toLower else t
  match b.target with
  | none => emit out
  | some f =>
    let front ← match ← readFile (if f = ['-'] then "./-".toList else f) with
      | .ok old => pure old
      | .error _ => pure []
    let start := b.seek * b.output
    let before := front.take start
    let rest := if has "notrunc" then front.drop (start + out.length) else []
    let all := before ++ List.replicate (start - before.length) (Char.ofNat 0) ++ out ++ rest
    if let .error e ← writeFile f .write all then
      die ("failed to open ".toList ++ inQuotes f ++ ": ".toList ++ e.text)
  flush
  if b.told ≠ "none".toList then
    let _ ← putRaw 2 (blockCounts b.input t.length ++ " records in\n".toList ++
      blockCounts b.output out.length ++ " records out\n".toList)
    if b.told ≠ "noxfer".toList then
      let _ ← putRaw 2 (Raw.ofNat out.length ++ " bytes copied, 0.0001 s, 0.0 kB/s\n".toList)

end TestWeaver.Utility
