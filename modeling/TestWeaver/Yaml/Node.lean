import TestWeaver.Yaml.Tag
import TestWeaver.Yaml.Token

/-!
The one document of a YAML text: nodes, which know each other by their numbers. A node that has
a name can stand in many places, also below itself.
-/

namespace TestWeaver.Yaml

inductive Content where
  | scalar (text : Text)
  | sequence (items : List Nat)
  | mapping (entries : List (Nat × Nat))
deriving DecidableEq, Repr

structure Node where
  tag : Tag
  content : Content
deriving DecidableEq, Repr

abbrev Nodes := Array Node

/-- The node of a number; the one of a number that is not in use is null. -/
def Nodes.at (ns : Nodes) (i : Nat) : Node := ns.getD i ⟨.null, .scalar []⟩

structure Document where
  nodes : Nodes
  root : Option Nat

structure Reader where
  lexer : Lexer
  handles : List (Text × Text) := []
  nodes : Nodes := #[]
  /-- The nodes with names, those that are still being read among them. -/
  anchors : List (Text × Nat) := []
  /-- How many collections are being read. -/
  level : Nat := 0

abbrev Read := StateT Reader (Except Fault)

namespace Reader

def malformed {α : Type} : Read α := throw .malformed

/-- Collections are read to this depth. -/
def mostLevels : Nat := 486

/-- Reads what is in a collection. -/
def inside {α : Type} (a : Read α) : Read α := do
  if mostLevels ≤ (← get).level then throw .endless
  modify fun r => { r with level := r.level + 1 }
  let x ← a
  modify fun r => { r with level := r.level - 1 }
  return x

def lex {α : Type} (a : Lex α) : Read α := do
  let r ← get
  let (x, l) ← a.run r.lexer
  set { r with lexer := l }
  return x

def peek : Read (Option Token) := lex Lexer.next?

def skip : Read Unit := lex Lexer.take

/-- Whether a token comes next, which is then read. -/
def accept (t : Token) : Read Bool := do
  if (← peek) = some t then
    skip
    return true
  else return false

def expect (t : Token) : Read Unit := do
  if !(← accept t) then malformed

def peekIn (ts : List Token) : Read Bool := do
  match ← peek with
  | none => return false
  | some t => return ts.contains t

/-! ### anchors and tags -/

def anchor? : Read (Option Text) := do
  match ← peek with
  | some (.anchor a) =>
    skip
    return some a
  | _ => return none

/-- A tag as it is written: its handle, if it has one, and the rest. -/
def tag? : Read (Option (Option Text × Text)) := do
  match ← peek with
  | some (.tag handle suffix) =>
    skip
    return some (handle, suffix)
  | _ => return none

/-- A tag with its handle replaced. -/
def fullTag : Option (Option Text × Text) → Read (Option Text)
  | none => return none
  | some (none, suffix) => return some suffix
  | some (some h, suffix) => do
    match (← get).handles.lookup h with
    | none => malformed
    | some target => return some (target ++ suffix)

/-- Anchor and tag in either order. -/
def properties : Read (Option Text × Option Text) := do
  match ← anchor? with
  | some a =>
    let t ← tag?
    return (some a, ← fullTag t)
  | none =>
    match ← tag? with
    | some t =>
      let a ← anchor?
      return (a, ← fullTag (some t))
    | none => return (none, none)

/-! ### adding nodes -/

/-- A name is given once. -/
def checkNew : Option Text → Read Unit
  | none => return
  | some a => do
    if ((← get).anchors.lookup a).isSome then malformed

/-- A new node, with the name that it is given. -/
def add (a : Option Text) (x : Node) : Read Nat := do
  let r ← get
  let i := r.nodes.size
  set { r with
    nodes := r.nodes.push x
    anchors := (a.map fun a => (a, i)).toList ++ r.anchors }
  return i

/-- What is read where a value is left out. -/
def absent : Read Nat := add none ⟨.null, .scalar []⟩

def fillIn (i : Nat) (c : Content) : Read Nat := do
  modify fun r => { r with nodes := r.nodes.modify i fun x => { x with content := c } }
  return i

/-- An exclamation mark alone leaves the type open. -/
def isOpenTag : Option Text → Bool
  | none => true
  | some t => t = ['!']

def tagOr (usual : Tag) (t : Option Text) : Tag :=
  match t with
  | some t => if t = ['!'] then usual else .ofName t
  | none => usual

def scalarTag (plain : Bool) (t : Option Text) (s : Text) : Tag :=
  if t = none && !plain then .text else tagOr (Plain.tagOf s) t

/-! ### nodes -/

mutual

/-- A node. Block collections stand only where `block` allows them, and entries without an
indentation of their own only where `loose` does. -/
def node (block loose : Bool) : Nat → Read Nat
  | 0 => malformed
  | n + 1 => do
    match ← peek with
    | some (.alias a) =>
      skip
      match (← get).anchors.lookup a with
      | some i => return i
      | none => malformed
    | _ =>
      let (a, t) ← properties
      let _ ← peek
      checkNew a
      content block loose a t n

/-- What follows anchor and tag; a node with one of them may be empty. -/
def content (block loose : Bool) (a t : Option Text) : Nat → Read Nat
  | 0 => malformed
  | n + 1 => do
    match ← peek with
    | some (.scalar s plain) =>
      skip
      add a ⟨scalarTag plain t s, .scalar s⟩
    | some .flowSequence =>
      skip
      let i ← add a ⟨tagOr .sequence t, .sequence []⟩
      fillIn i (.sequence (← inside (flowItems true n)))
    | some .flowMapping =>
      skip
      let i ← add a ⟨tagOr .mapping t, .mapping []⟩
      fillIn i (.mapping (← inside (flowEntries true n)))
    | next =>
      if next = some .entry && loose then
        let i ← add a ⟨tagOr .sequence t, .sequence []⟩
        fillIn i (.sequence (← inside (looseItems n)))
      else if next = some .blockSequence && block then
        skip
        let i ← add a ⟨tagOr .sequence t, .sequence []⟩
        fillIn i (.sequence (← inside (blockItems n)))
      else if next = some .blockMapping && block then
        skip
        let i ← add a ⟨tagOr .mapping t, .mapping []⟩
        fillIn i (.mapping (← inside (blockEntries n)))
      else if a = none && t = none then malformed
      else add a ⟨tagOr .null t, .scalar []⟩

/-- A node, or none in front of certain tokens. -/
def nodeBefore (ends : List Token) (block loose : Bool) : Nat → Read Nat
  | 0 => malformed
  | n + 1 => do
    if ← peekIn ends then absent else node block loose n

def blockItems : Nat → Read (List Nat)
  | 0 => malformed
  | n + 1 => do
    if ← accept .entry then
      let x ← nodeBefore [.entry, .blockEnd] true false n
      return x :: (← blockItems n)
    else
      expect .blockEnd
      return []

def looseItems : Nat → Read (List Nat)
  | 0 => malformed
  | n + 1 => do
    if ← accept .entry then
      let x ← nodeBefore [.entry, .key, .value, .blockEnd] true false n
      return x :: (← looseItems n)
    else return []

/-- The value of a key, if a value comes next. -/
def valueBefore (ends : List Token) (block loose : Bool) : Nat → Read Nat
  | 0 => malformed
  | n + 1 => do
    if ← accept .value then nodeBefore ends block loose n else absent

def blockEntries : Nat → Read (List (Nat × Nat))
  | 0 => malformed
  | n + 1 => do
    if ← accept .key then
      let k ← nodeBefore [.key, .value, .blockEnd] true true n
      let v ← valueBefore [.key, .value, .blockEnd] true true n
      return (k, v) :: (← blockEntries n)
    else
      expect .blockEnd
      return []

/-- Items up to the closing bracket, with commas between them; a key makes an item a mapping of
one entry. -/
def flowItems (first : Bool) : Nat → Read (List Nat)
  | 0 => malformed
  | n + 1 => do
    if ← accept .flowSequenceEnd then return []
    if !first then expect .comma
    if ← accept .flowSequenceEnd then return []
    let x ←
      if ← accept .key then do
        let i ← add none ⟨.mapping, .mapping []⟩
        let k ← nodeBefore [.value, .comma, .flowSequenceEnd] false false n
        let v ← valueBefore [.comma, .flowSequenceEnd] false false n
        fillIn i (.mapping [(k, v)])
      else node false false n
    return x :: (← flowItems false n)

def flowEntries (first : Bool) : Nat → Read (List (Nat × Nat))
  | 0 => malformed
  | n + 1 => do
    if ← accept .flowMappingEnd then return []
    if !first then expect .comma
    if ← accept .flowMappingEnd then return []
    let e ←
      if ← accept .key then do
        let k ← nodeBefore [.value, .comma, .flowMappingEnd] false false n
        let v ← valueBefore [.comma, .flowMappingEnd] false false n
        pure (k, v)
      else do
        let k ← node false false n
        pure (k, ← absent)
    return e :: (← flowEntries false n)

end

/-! ### the document -/

def usualHandles : List (Text × Text) := [(['!'], ['!']), (['!', '!'], Tag.space)]

/-- Directives: one version at most, which must be 1, and no handle twice. -/
def directives (versions : Nat) (handles : List (Text × Text)) : Nat → Read (List (Text × Text))
  | 0 => malformed
  | n + 1 => do
    match ← peek with
    | some (.directive (.version major)) =>
      skip
      if versions = 0 && major = 1 then directives 1 handles n else malformed
    | some (.directive (.tag h target)) =>
      skip
      if (handles.lookup h).isSome then malformed
      else directives versions ((h, target) :: handles) n
    | some (.directive .other) =>
      skip
      directives versions handles n
    | _ => return handles ++ usualHandles

def isContent : Option Token → Bool
  | none | some (.directive _) | some .documentStart | some .documentEnd => false
  | _ => true

def skipEnds : Nat → Read Unit
  | 0 => return
  | n + 1 => do
    if ← accept .documentEnd then skipEnds n

/-- The root, behind which no other document begins. -/
def root (fuel : Nat) : Read (Option Nat) := do
  let start ← peek
  if start = none then return none
  let explicit := !isContent start && start ≠ some .documentEnd
  let handles ← if explicit then directives 0 [] fuel else pure usualHandles
  modify fun r => { r with handles := handles }
  if explicit then expect .documentStart
  let x ← if explicit && !isContent (← peek) then absent else node true false fuel
  skipEnds fuel
  match ← peek with
  | none => return some x
  | some _ => do
    let _ ← directives 0 [] fuel
    malformed

end Reader

/-- The document of a text; a text without tokens holds nothing. -/
def Document.ofText (s : Text) : Except Fault Document := do
  let l ← Lexer.ofText s
  let (x, r) ← (Reader.root (4 * l.size + 8)).run { lexer := l }
  return ⟨r.nodes, x⟩

end TestWeaver.Yaml
