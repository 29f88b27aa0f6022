import TestWeaver.Utility.Places

/-!
Listing directories.
-/

namespace TestWeaver.Utility

open FileTree (Cause Node)

def listingOptions : List Known := [⟨'a', "all", false, false⟩, ⟨'A', "almost-all", false, false⟩,
  ⟨'b', "escape", false, false⟩, ⟨'B', "ignore-backups", false, false⟩, ⟨'c', "", false, false⟩,
  ⟨'C', "", false, false⟩, ⟨'d', "directory", false, false⟩, ⟨'f', "", false, false⟩,
  ⟨'F', "classify", true, true⟩, ⟨'g', "", false, false⟩, ⟨'G', "no-group", false, false⟩,
  ⟨'h', "human-readable", false, false⟩, ⟨'H', "", false, false⟩, ⟨'i', "inode", false, false⟩,
  ⟨'I', "ignore", true, false⟩, ⟨'k', "", false, false⟩, ⟨'l', "", false, false⟩,
  ⟨'L', "dereference", false, false⟩, ⟨'m', "", false, false⟩,
  ⟨'n', "numeric-uid-gid", false, false⟩, ⟨'N', "literal", false, false⟩, ⟨'o', "", false, false⟩,
  ⟨'p', "", false, false⟩, ⟨'q', "", false, false⟩, ⟨'Q', "quote-name", false, false⟩,
  ⟨'r', "reverse", false, false⟩, ⟨'R', "recursive", false, false⟩, ⟨'s', "size", false, false⟩,
  ⟨'S', "", false, false⟩, ⟨'t', "", false, false⟩, ⟨'T', "tabsize", true, false⟩,
  ⟨'u', "", false, false⟩, ⟨'U', "", false, false⟩, ⟨'v', "", false, false⟩,
  ⟨'w', "width", true, false⟩, ⟨'x', "", false, false⟩, ⟨'X', "", false, false⟩,
  ⟨'1', "", false, false⟩, ⟨'#', "color", true, true⟩, ⟨'#', "sort", true, false⟩,
  ⟨'#', "group-directories-first", false, false⟩]

structure Listed where
  name : Text
  node : Node

def sizeOf (n : Node) : Nat :=
  match n with
  | .file bs _ => bs.length
  | .dir _ => 4096
  | .link t => t.length

/-- The part of a name from its last dot on. -/
def extension (name : Text) : Text :=
  match (name.reverse.takeWhile (· ≠ '.')).reverse with
  | e => if e.length = name.length then [] else e

/-- Names in the order that is asked for. -/
def inOrder (os : List Given) (ls : List Listed) : List Listed :=
  let byName := fun (a b : Listed) => !(b.name < a.name)
  let sorted :=
    if has os 'U' || has os 'f' then ls
    else
      let ls := ls.mergeSort byName
      if has os 'S' then ls.mergeSort fun a b => sizeOf b.node ≤ sizeOf a.node
      else if has os 'X' then ls.mergeSort fun a b => !(extension b.name < extension a.name)
      else ls
  if has os 'r' then sorted.reverse else sorted

/-- The mark behind a name that tells what it is. -/
def markBehind (os : List Given) (n : Node) : Text :=
  match n with
  | .dir _ => if has os 'F' || has os 'p' then ['/'] else []
  | .link _ => if has os 'F' && !has os 'l' then ['@'] else []
  | .file _ x => if x && has os 'F' then ['*'] else []

def shownName (os : List Given) (l : Listed) : Text :=
  (if has os 'Q' then '"' :: l.name ++ ['"'] else l.name) ++ markBehind os l.node

/-- A row for a name with all that is known about it. -/
def longRow (os : List Given) (width : Nat) (l : Listed) : Text :=
  let owner : Text := if has os 'n' then ['0'] else "root".toList
  let parts : List Text := [factOf l.name l.node 'A', factOf l.name l.node 'h'] ++
    (if has os 'g' then [] else [owner]) ++ (if has os 'o' || has os 'G' then [] else [owner]) ++
    [padLeft width (Raw.ofNat (sizeOf l.node)), "Jan  1 00:00".toList, shownName os l ++
      match l.node with
      | .link t => " -> ".toList ++ Raw.ofText t
      | _ => []]
  List.intercalate [' '] parts

def isLong (os : List Given) : Bool := ['l', 'g', 'n', 'o'].any (has os)

/-- Names in columns one below the other. -/
def inColumns (width : Nat) (names : List Text) : List Text :=
  let count := names.length
  let widths := fun (rows : Nat) => (List.range ((count + rows - 1) / rows)).map fun c =>
    ((names.drop (c * rows)).take rows).foldl (fun m n => max m (Raw.toText n).length) 0 + 2
  let fits := fun (rows : Nat) => (widths rows).foldl (· + ·) 0 < width + 2 + 1
  let rows := ((List.range count).map (· + 1)).find? fits |>.getD count
  (List.range rows).map fun r =>
    let cells := (widths rows).zipIdx.filterMap fun (w, c) =>
      (names[c * rows + r]?).map fun n => (w, n, decide ((c + 1) * rows + r < count))
    cells.flatMap fun (w, n, more) =>
      if more then padRight (w + (n.length - (Raw.toText n).length)) n else n

def printListed (os : List Given) (ls : List Listed) : Act Unit := do
  let ls := inOrder os ls
  if isLong os then
    let width := ls.foldl (fun m l => max m (Raw.ofNat (sizeOf l.node)).length) 0
    ls.forM fun l => emitLine (longRow os width l)
  else
    let names := ls.map (shownName os)
    if has os 'm' then
      if names ≠ [] then emitLine (List.intercalate ", ".toList names)
    else if has os 'C' || has os 'x' then
      (inColumns (((valueOf os 'w').map number).getD 80) names).forM emitLine
    else names.forM emitLine

/-- What a directory holds, as far as it is asked for. -/
def entriesOf (os : List Given) (t : FileTree) (path : Text) : List Listed :=
  match Pattern.nodeAt? t true path with
  | some (.dir es) =>
    let own := es.toList.map fun (n, e) => (⟨Raw.ofText n, e⟩ : Listed)
    let own := own.map fun l =>
      if has os 'L' then
        { l with node := (Pattern.nodeAt? t true (inside path l.name)).getD l.node } else l
    let own := own.filter fun l => has os 'a' || has os 'A' || has os 'f' || l.name.head? ≠ some '.'
    let own := own.filter fun l => !(has os 'B' && Text.endsWith l.name ['~'])
    let dots : List Listed := if has os 'a' || has os 'f' then
      [⟨['.'], .dir .nil⟩, ⟨['.', '.'], .dir .nil⟩] else []
    dots ++ own
  | _ => []

/-- Lists a directory under its name, and perhaps those in it. -/
def listDir (os : List Given) : Nat → Bool → Bool → Text → Act Unit
  | 0, _, _, _ => return
  | n + 1, isFirst, titled, path => do
    if !isFirst then emit ['\n']
    if titled then emitLine (path ++ [':'])
    let ls := entriesOf os (← look) path
    if isLong os then emitLine "total 0".toList
    printListed os ls
    if has os 'R' then
      for l in inOrder os ls do
        if l.node.isDir && !isDotName l.name then
          listDir os n false true (inside path l.name)

def ls : Program := fun args => do
  let (os, names) ← parse listingOptions args false 2
  let t ← look
  let names := if names = [] then [['.']] else names
  let found ← names.filterMapM fun n => do
    let stops := has os 'd' || isLong os || has os 'F'
    let there := (locate t (!stops) n).toOption.bind (·.2)
    let node : Except Text (Option Listed) := if there.isSome then .ok (there.map fun e => (⟨n, e⟩ : Listed))
      else match locate t false n with
        | .ok (_, some e) => .ok (some ⟨n, e⟩)
        | .ok (_, none) => .error noEntry
        | .error e => .error e
    match node with
    | .ok l => return l
    | .error e =>
      grumble ("cannot access ".toList ++ inQuotes n ++ ": ".toList ++ e) 2
      return none
  let isDir := fun (l : Listed) => l.node.isDir && !has os 'd'
  let files := found.filter fun l => !isDir l
  let dirs := inOrder os (found.filter isDir)
  printListed os files
  let titled := 2 ≤ names.length || has os 'R'
  let _ ← dirs.foldlM (fun (isFirst : Bool) l => do
    listDir os copyDepth isFirst titled l.name
    return false) files.isEmpty

end TestWeaver.Utility
