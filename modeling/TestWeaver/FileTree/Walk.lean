import TestWeaver.FileTree.Node
import TestWeaver.Path.Basic

/-!
Following a path through a tree.

`follow` is the way that opening a file goes: every name but the last must be a directory or
lead to one.
-/

namespace TestWeaver.FileTree

inductive Cause where
  | noEntry
  | exists
  | notDirectory
  | isDirectory
  | nameTooLong
  | linkLoop
  | accessDenied
deriving DecidableEq, Repr

def Cause.number : Cause → Nat
  | .noEntry => 2
  | .accessDenied => 13
  | .exists => 17
  | .notDirectory => 20
  | .isDirectory => 21
  | .nameTooLong => 36
  | .linkLoop => 40

def Cause.text : Cause → Text
  | .noEntry => "No such file or directory".toList
  | .accessDenied => "Permission denied".toList
  | .exists => "File exists".toList
  | .notDirectory => "Not a directory".toList
  | .isDirectory => "Is a directory".toList
  | .nameTooLong => "File name too long".toList
  | .linkLoop => "Too many levels of symbolic links".toList

def maxNameOctets : Nat := 255

def maxPathOctets : Nat := 4095

/-- How many links one path may go through. -/
def maxLinks : Nat := 40

/-- The names that a raw path goes through; an empty one at the end asks for a directory. -/
def stepsOf (s : Text) : List Text :=
  (Text.splitAt '/' s).filter (· ≠ []) ++ if s.getLast? = some '/' then [[]] else []

/-- Where a raw path starts, seen from a place. -/
def startOf (here : Place) (s : Text) : Place := if s.head? = some '/' then [] else here

/-- How far a path leads without going through a link. -/
inductive Leg where
  | arrived (place : Place) (node : Option Node)
  | met (here : Place) (target : Text) (rest : List Text)
  | stopped (cause : Cause)

/-- Goes on from a directory. A link at the very end is gone through only if `last` says so. -/
def leg (root : Node) (last : Bool) (here : Place) : List Text → Leg
  | [] => .arrived here (root.get? here)
  | n :: ns =>
    if n = [] || n = ['.'] then leg root last here ns
    else if n = ['.', '.'] then leg root last here.dropLast ns
    else if maxNameOctets < (Utf8.encode n).length then .stopped .nameTooLong
    else
      match root.get? (here ++ [n]) with
      | none => if ns = [] then .arrived (here ++ [n]) none else .stopped .noEntry
      | some (.link t) =>
        if ns = [] && !last then .arrived (here ++ [n]) (some (.link t)) else .met here t ns
      | some (.file bs x) =>
        if ns = [] then .arrived (here ++ [n]) (some (.file bs x)) else .stopped .notDirectory
      | some (.dir es) =>
        if ns = [] then .arrived (here ++ [n]) (some (.dir es))
        else leg root last (here ++ [n]) ns

def followFrom (root : Node) (last : Bool) :
    Nat → Place → List Text → Except Cause (Place × Option Node)
  | links, here, ns =>
    match leg root last here ns with
    | .arrived place node => .ok (place, node)
    | .stopped cause => .error cause
    | .met place target rest =>
      match links with
      | 0 => .error .linkLoop
      | n + 1 => followFrom root last n (startOf place target) (stepsOf target ++ rest)

/-- The place that a raw path leads to and the node there; a missing last name is no error. -/
def follow (root : Node) (here : Place) (last : Bool) (s : Text) :
    Except Cause (Place × Option Node) :=
  if s = [] then .error .noEntry
  else if maxPathOctets < (Utf8.encode s).length then .error .nameTooLong
  else followFrom root last maxLinks (startOf here s) (stepsOf s)

/-! ### places and paths -/

/-- The place that a path spells out, links not looked at. -/
def placeOf (here : Place) (p : Path) : Place :=
  p.parts.foldl (fun ns n => if n = ['.', '.'] then ns.dropLast else ns ++ [n])
    (if p.root = .none then here else [])

/-- A place as a path from the top. -/
def Place.toPath (place : Place) : Path := ⟨.slash, place⟩

end TestWeaver.FileTree
