import TestWeaver.Shell.Builtin.Reading

/-!
Menus, from which the reader of a script chooses by number.
-/

namespace TestWeaver.Shell

open Machine (Proc)

/-- How wide a terminal is where nothing says so, and how wide its tabs are. -/
def screenWidth : Nat := 80

def tabWidth : Nat := 8

/-- Blanks and tabs from one column to another. -/
def indentFrom : Nat → Nat → Nat → Text
  | 0, _, _ => []
  | fuel + 1, a, b =>
    if b ≤ a then []
    else if a / tabWidth < b / tabWidth then '\t' :: indentFrom fuel (a + tabWidth - a % tabWidth) b
    else ' ' :: indentFrom fuel (a + 1) b

def rightAligned (width : Nat) (t : Text) : Text := List.replicate (width - t.length) ' ' ++ t

/-- One row of a menu, from its first item on. -/
def menuRow (items : Array Text) (rows width indices : Nat) : Nat → Nat → Nat → Text
  | 0, _, _ => ['\n']
  | fuel + 1, i, column =>
    let digits := if column = 0 then (Raw.ofNat rows).length else indices
    let t := items[i]?.getD []
    let shown := rightAligned digits (Raw.ofNat (i + 1)) ++ ") ".toList ++ t
    let stop := column + t.length + digits + 2
    if items.size ≤ i + rows then shown ++ ['\n']
    else shown ++ indentFrom (width + 1) stop (column + width) ++
      menuRow items rows width indices fuel (i + rows) (column + width)

/-- A menu in columns, as many as there is room for. -/
def menuText (screen : Nat) (items : Array Text) : Text :=
  let n := items.size
  let indices := (Raw.ofNat n).length
  let longest := items.foldl (fun m t => max m t.length) 0
  let width := longest + indices + 2 + 2
  let columns := max (screen / width) 1
  let up := fun (a b : Nat) => a / b + if a % b = 0 then 0 else 1
  let rows := if n = 0 then 1 else up n columns
  let columns := if n = 0 then 1 else up n rows
  let rows := if rows = 1 then columns else rows
  (List.range rows).flatMap fun i => menuRow items rows width indices n i 0

/-- Asks for a number; the answer is the item, or nothing at the end of the input. -/
def choose (items : List Text) (shown : Bool) : Sh (Option Text) := do
  let s ← get
  let screen := (Arithmetic.number? (s.lookup "COLUMNS".toList)).getD 0
  let menu := menuText (if 0 < screen then screen.toNat else screenWidth) items.toArray
  let prompt := (s.lookup? "PS3".toList).getD "#? ".toList
  Proc.iterate (fun (shown : Bool) => do
    if shown then put 2 menu
    put 2 prompt
    let row ← readRow false '\n' 0 none
    if !row.complete && row.glyphs = [] then
      put 1 ['\n']
      return .inr none
    let reply := match wordsOf (← get).separators 1 row.glyphs.reverse with
      | t :: _ => t
      | [] => []
    assign "REPLY".toList reply
    if reply = [] then return .inl true
    let n := if reply.all Char.isDigit then Arithmetic.valueIn 10 reply else 0
    return .inr (some (if n = 0 then [] else items.getD (n - 1) []))) none Proc.ages shown

end TestWeaver.Shell
