import TestWeaver.Text.Utf8

/-!
A file system as a tree: files with their octets, symbolic links, and directories.

A place in the tree is the list of the names that lead to it from the top; it says nothing of
links. `get?` and `put` read and change the node at a place.
-/

namespace TestWeaver.FileTree

/-- The names from the top of the tree to a node. -/
abbrev Place := List Text

mutual

inductive Node where
  | file (octets : Utf8.Octets) (executable : Bool)
  | link (target : Text)
  | dir (entries : Entries)

/-- The entries of a directory in the order in which they were made. -/
inductive Entries where
  | nil
  | cons (name : Text) (node : Node) (rest : Entries)

end

namespace Entries

def find? (name : Text) : Entries → Option Node
  | nil => none
  | cons n e rest => if n = name then some e else rest.find? name

/-- Changes the entry of a name, or adds one at the end. -/
def set (name : Text) (node : Node) : Entries → Entries
  | nil => cons name node nil
  | cons n e rest => if n = name then cons n node rest else cons n e (rest.set name node)

/-- Takes the entry of a name away. -/
def erase (name : Text) : Entries → Entries
  | nil => nil
  | cons n e rest => if n = name then rest.erase name else cons n e (rest.erase name)

def toList : Entries → List (Text × Node)
  | nil => []
  | cons n e rest => (n, e) :: rest.toList

theorem find?_set_self (name : Text) (node : Node) (es : Entries) :
    (es.set name node).find? name = some node := by
  induction es using Entries.rec (motive_1 := fun _ => True) with
  | file | link | dir => trivial
  | nil => simp [set, find?]
  | cons n e rest _ ih => by_cases h : n = name <;> simp [set, find?, h, ih]

theorem find?_erase_self (name : Text) (es : Entries) : (es.erase name).find? name = none := by
  induction es using Entries.rec (motive_1 := fun _ => True) with
  | file | link | dir => trivial
  | nil => rfl
  | cons n e rest _ ih => by_cases h : n = name <;> simp [erase, find?, h, ih]

theorem find?_set_of_ne {name other : Text} (h : other ≠ name) (node : Node) (es : Entries) :
    (es.set name node).find? other = es.find? other := by
  induction es using Entries.rec (motive_1 := fun _ => True) with
  | file | link | dir => trivial
  | nil => simp [set, find?, h.symm]
  | cons n e rest _ ih =>
    by_cases hn : n = name
    · subst hn; simp [set, find?, h.symm]
    · simp [set, find?, hn, ih]

end Entries

namespace Node

def isDir : Node → Bool
  | dir _ => true
  | _ => false

def isFile : Node → Bool
  | file _ _ => true
  | _ => false

def get? : Place → Node → Option Node
  | [], e => some e
  | n :: ns, dir es => (es.find? n).bind (get? ns)
  | _ :: _, _ => none

/-- The tree with another node at a place. Missing directories on the way are made; a way
through a file or a link changes nothing. -/
def put (new : Node) : Place → Node → Node
  | [], _ => new
  | n :: ns, dir es => dir (es.set n (put new ns ((es.find? n).getD (dir .nil))))
  | _ :: _, e => e

end Node

end TestWeaver.FileTree
