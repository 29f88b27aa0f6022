import TestWeaver.Dependency.Targets
import TestWeaver.FileTree.Files

/-!
Finding the source files of import targets in a workspace.

The sources of a tree are its files with the suffix of the language, without those in
directories for tests, build results and tools, and without what lies behind a link to a
directory. A directory whose path is too long for the machine is passed over. A target is found in
the first source, in the order of code points, whose path ends with the segments of the target.
-/

namespace TestWeaver.Dependency

open FileTree

def skippedDirs : List Text :=
  [".git", ".hg", ".svn", ".gradle", ".idea", ".mvn", "build", "target", "out", "node_modules",
    "test"].map String.toList

def sourceSuffix : Text := ".java".toList

/-- A file or a directory that a walk comes by, by the names that lead to it. -/
structure Sight where
  place : Place
  isDir : Bool
deriving DecidableEq, Repr

/-- The path of an entry, written behind that of its directory. -/
def entryPath (dir name : Text) : Text :=
  if dir.getLast? = some '/' then dir ++ name else dir ++ '/' :: name

/-- Whether the directory of a path can be listed. -/
def isListed (path name : Text) : Bool :=
  (Utf8.encode path).length ≤ maxPathOctets && (Utf8.encode name).length ≤ maxNameOctets

mutual

/-- What is seen at and below one entry of a directory with the path `dir`. `leads` tells which
paths of links lead to a directory. -/
def entrySights (leads : Text → Bool) (dir : Text) (here : Place) (name : Text) : Node → List Sight
  | .file _ _ => [⟨here ++ [name], false⟩]
  | .link _ =>
    if !leads (entryPath dir name) then [⟨here ++ [name], false⟩]
    else if name ∈ skippedDirs then []
    else [⟨here ++ [name], true⟩]
  | .dir es =>
    if name ∈ skippedDirs then []
    else
      ⟨here ++ [name], true⟩ ::
        if isListed (entryPath dir name) name then
          sightsIn leads (entryPath dir name) (here ++ [name]) es
        else []

def sightsIn (leads : Text → Bool) (dir : Text) (here : Place) : Entries → List Sight
  | .nil => []
  | .cons name node rest => entrySights leads dir here name node ++ sightsIn leads dir here rest

end

def leadsToDir (t : FileTree) (path : Text) : Bool :=
  match follow t.root t.here true path with
  | .ok (_, some e) => e.isDir
  | _ => false

/-- What a walk through a directory comes by; there is nothing where there is no directory. -/
def sights (t : FileTree) (dir : Path) : List Sight :=
  match t.locate true dir with
  | .ok (_, some (.dir es)) => sightsIn (leadsToDir t) dir.toText [] es
  | _ => []

/-- What is no directory and has the suffix is a source. -/
def Sight.isSource (s : Sight) : Bool :=
  !s.isDir && s.place.getLast?.any fun n => Text.endsWith n sourceSuffix

/-- The sources below a directory. -/
def sources (t : FileTree) (dir : Path) : List Place :=
  ((sights t dir).filter Sight.isSource).map Sight.place

/-- The order of code points, a shorter text first. -/
def textLe : Text → Text → Bool
  | [], _ => true
  | _ :: _, [] => false
  | c :: s, d :: t => c.toNat < d.toNat || (c = d && textLe s t)

def insertSorted (a : Text) : List Text → List Text
  | [] => [a]
  | b :: bs => if textLe a b then a :: b :: bs else b :: insertSorted a bs

def sortTexts (ts : List Text) : List Text := ts.foldr insertSorted []

/-- The end that the path of a target's source must have. -/
def sourceEnd (target : Text) : Text := Text.replaceChar '.' '/' target ++ sourceSuffix

def isSourceOf (target candidate : Text) : Bool :=
  candidate = sourceEnd target || Text.endsWith candidate ('/' :: sourceEnd target)

/-- The source of each target that has one. -/
def found (candidates : List Text) (dir : Path) (targets : List Text) : List (Text × Path) :=
  (Merge.distinct targets).filterMap fun target =>
    (candidates.find? (isSourceOf target)).map fun c => (target, dir / Path.ofText c)

/-- The source of each target that has one, below a directory that can be named. A walk that comes
to a directory further down than it can go is given up. -/
def lookup (t : FileTree) (dir : Path) (targets : List Text) : Outcome (List (Text × Path)) :=
  match t.misnamed? dir.toText with
  | some e => .error e
  | none =>
    if (sights t dir).any fun s => s.isDir && t.host.walkLevels.any (· < s.place.length) then
      .error .tooDeep
    else .ok (found (sortTexts ((sources t dir).map (Text.joinWith '/'))) dir targets)

end TestWeaver.Dependency
