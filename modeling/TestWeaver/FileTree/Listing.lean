import TestWeaver.FileTree.Files

/-!
The files below a directory, and those that differ between two trees. Links are neither listed
nor followed.
-/

namespace TestWeaver.FileTree

mutual

def nodeFiles (place : Place) : Node → List (Place × Utf8.Octets)
  | .file bs _ => [(place, bs)]
  | .link _ => []
  | .dir es => entryFiles place es

def entryFiles (place : Place) : Entries → List (Place × Utf8.Octets)
  | .nil => []
  | .cons name node rest => nodeFiles (place ++ [name]) node ++ entryFiles place rest

end

/-- The files below the current directory, by their places seen from there. -/
def files (t : FileTree) : List (Place × Utf8.Octets) :=
  ((t.root.get? t.here).map (nodeFiles [])).getD []

/-- The files that are new or hold other octets than before. -/
def changes (before after : FileTree) : List (Place × Utf8.Octets) :=
  after.files.filter fun f => before.files.lookup f.1 ≠ some f.2

end TestWeaver.FileTree
