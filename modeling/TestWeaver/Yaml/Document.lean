import TestWeaver.Yaml.Node
import TestWeaver.Yaml.Scalar

/-!
The value of a document.

Values are made level by level, from the root down and in order within a level, each node once,
so the first fault in that order is the one reported. Merge keys are resolved when their mapping
is reached. The value is then shown to a limited depth: a document may hold itself, and nobody
looks deeper.
-/

namespace TestWeaver.Yaml

abbrev NodeEntries := List (Nat × Nat)

namespace Nodes

def tagOf (ns : Nodes) (i : Nat) : Tag := (ns.at i).tag

def entries? (ns : Nodes) (i : Nat) : Option NodeEntries :=
  match (ns.at i).content with
  | .mapping es => some es
  | _ => none

def setTag (ns : Nodes) (i : Nat) (t : Tag) : Nodes := ns.modify i fun x => { x with tag := t }

def setEntries (ns : Nodes) (i : Nat) (es : NodeEntries) : Nodes :=
  ns.modify i fun x => { x with content := .mapping es }

/-- The text of a scalar; a mapping with a default gives the text of that. -/
def textOf (ns : Nodes) : Nat → Nat → Except Fault Text
  | 0, _ => .error .endless
  | n + 1, i =>
    match (ns.at i).content with
    | .scalar s => .ok s
    | .sequence _ => .error .malformed
    | .mapping es =>
      match es.find? fun e => ns.tagOf e.1 = .default with
      | none => .error .malformed
      | some e => ns.textOf n e.2

/-- The value of a node that is no collection. -/
def scalarValue (ns : Nodes) (i : Nat) : Except Fault Value := do
  let t := ns.tagOf i
  let s ← ns.textOf (ns.size + 1) i
  if t = .moment && (ns.entries? i).isSome then throw .notText
  Scalar.value t s

/-! ### merged mappings -/

abbrev Merging := StateT Nodes (Except Fault)

/-- A key that is the sign for the default is a text. -/
def defaultsToText (ns : Nodes) (es : NodeEntries) : Nodes :=
  es.foldl (fun ns e => if ns.tagOf e.1 = .default then ns.setTag e.1 .text else ns) ns

mutual

/-- Puts the entries that merge keys bring in in front of those of the mapping itself, which so
count more. Each merge key is taken away before what it names is looked at, which may be the
mapping itself. `merged` is what was brought in for the entries in front of the place `from`. -/
def flattenFrom : Nat → Nat → Nat → NodeEntries → Merging Unit
  | 0, _, _, _ => return
  | n + 1, i, start, merged => do
    let ns ← get
    let es := (ns.entries? i).getD []
    let plain := (es.drop start).takeWhile fun e => ns.tagOf e.1 ≠ .merge
    set (ns.defaultsToText plain)
    let here := start + plain.length
    match es.drop here with
    | [] => if merged ≠ [] then modify fun ns => ns.setEntries i (merged ++ es)
    | e :: rest => do
      modify fun ns => ns.setEntries i (es.take here ++ rest)
      let more ← mergedEntries n e.2
      flattenFrom n i here (merged ++ more)

/-- What the value of a merge key brings in: a mapping, or several of which the first counts
most. -/
def mergedEntries : Nat → Nat → Merging NodeEntries
  | 0, _ => return []
  | n + 1, i => do
    match ((← get).at i).content with
    | .mapping _ => flattened n i
    | .sequence xs => return ((← xs.mapM (flattened n)).reverse).flatten
    | .scalar _ => throw .malformed

/-- The entries of a mapping without merge keys. -/
def flattened : Nat → Nat → Merging NodeEntries
  | 0, _ => return []
  | n + 1, i => do
    if ((← get).entries? i).isNone then throw .malformed
    flattenFrom n i 0 []
    return ((← get).entries? i).getD []

end

/-- More steps than the merge keys of all mappings can take. -/
def mergeSteps (ns : Nodes) : Nat :=
  ns.foldl (fun n x => n + match x.content with
    | .mapping es => 3 * es.length
    | _ => 0) 6

end Nodes

/-! ### making values -/

/-- Nodes with the values made so far, and the collections among them that are still to be
filled, the last one first. -/
structure Maker where
  nodes : Nodes
  made : Array (Option Value)
  waiting : List Nat := []

abbrev Make := StateT Maker (Except Fault)

namespace Maker

def malformed {α : Type} : Make α := throw .malformed

/-- Makes the value of a node, a collection without what it holds. -/
def make (i : Nat) : Make Unit := do
  let m ← get
  if ((m.made.getD i none).isNone) then
    if (m.nodes.tagOf i).isCollection then
      set { m with made := m.made.setIfInBounds i (some .null), waiting := i :: m.waiting }
    else
      let v ← m.nodes.scalarValue i
      set { m with made := m.made.setIfInBounds i (some v) }

def makeAll : List Nat → Make Unit
  | [] => return
  | i :: is => do
    make i
    makeAll is

/-- The one entry of a mapping. -/
def pairOf (ns : Nodes) (i : Nat) : Option (Nat × Nat) :=
  match ns.entries? i with
  | some [e] => some e
  | _ => none

def makePairs : List Nat → Make Unit
  | [] => return
  | i :: is => do
    match pairOf (← get).nodes i with
    | none => malformed
    | some e =>
      makeAll [e.1, e.2]
      makePairs is

/-- Makes keys and values; a key must not be a collection. -/
def makeEntries : NodeEntries → Make Unit
  | [] => return
  | e :: es => do
    make e.1
    if ((← get).nodes.tagOf e.1).isCollection then malformed
    make e.2
    makeEntries es

/-- Makes what a collection holds. -/
def fillIn (i : Nat) : Make Unit := do
  let m ← get
  match m.nodes.tagOf i, (m.nodes.at i).content with
  | .sequence, .sequence xs => makeAll xs
  | .pairs, .sequence xs => makePairs xs
  | .mapping, .mapping _ | .set, .mapping _ => do
    let (es, ns) ← (Nodes.flattened m.nodes.mergeSteps i).run m.nodes
    set { m with nodes := ns }
    makeEntries es
  | _, _ => malformed

def fillAll : List Nat → Make Unit
  | [] => return
  | i :: is => do
    fillIn i
    fillAll is

/-- Fills level after level. -/
def fillLevels : Nat → Make Unit
  | 0 => return
  | n + 1 => do
    let m ← get
    if !m.waiting.isEmpty then
      set { m with waiting := [] }
      fillAll m.waiting.reverse
      fillLevels n

/-- The value of a node as far as `depth` collections deep. -/
def view (m : Maker) : Nat → Nat → Value
  | 0, i =>
    match m.nodes.tagOf i with
    | .sequence | .pairs => .sequence []
    | .mapping => .mapping []
    | .set => .set []
    | _ => (m.made.getD i none).getD .null
  | n + 1, i =>
    match m.nodes.tagOf i, (m.nodes.at i).content with
    | .sequence, .sequence xs => .sequence (xs.map (m.view n))
    | .pairs, .sequence xs =>
      .sequence (xs.filterMap fun y =>
        (pairOf m.nodes y).map fun e => .sequence [m.view n e.1, m.view n e.2])
    | .mapping, .mapping es => .mapping (es.map fun e => (m.view n e.1, m.view n e.2))
    | .set, .mapping es => .set (es.map fun e => m.view n e.1)
    | _, _ => (m.made.getD i none).getD .null

end Maker

/-- The value of a document, as far as `depth` collections deep. -/
def Document.value (depth : Nat) (d : Document) : Except Fault Value :=
  match d.root with
  | none => .ok .null
  | some i => do
    let m : Maker := { nodes := d.nodes, made := Array.replicate d.nodes.size none }
    let (_, m) ← (do Maker.make i; Maker.fillLevels (d.nodes.size + 1) : Make Unit).run m
    return m.view depth i

/-- The value of a text; a text without tokens is null. -/
def Value.ofText (depth : Nat) (s : Text) : Except Fault Value := do
  (← Document.ofText s).value depth

end TestWeaver.Yaml
