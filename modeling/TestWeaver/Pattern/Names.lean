import TestWeaver.Machine.Work
import TestWeaver.Pattern.Glob

/-!
The names of files that a pattern stands for.
-/

namespace TestWeaver.Pattern

open FileTree (Node)

/-- The node that a raw path leads to. -/
def nodeAt? (t : FileTree) (last : Bool) (path : Text) : Option Node :=
  match FileTree.follow t.root t.here last (Raw.toText path) with
  | .ok (_, node) => node
  | .error _ => none

/-- The names in a directory, in order. -/
def namesIn (t : FileTree) (path : Text) : List Text :=
  match nodeAt? t true (if path = [] then ['.'] else path) with
  | some (.dir es) =>
    (es.toList.map fun e => Raw.ofText e.1).mergeSort fun a b => !(b < a)
  | _ => []

/-- The parts of a field between slashes. -/
def components : List Glyph → List (List Glyph)
  | [] => [[]]
  | g :: gs =>
    if g.char = '/' then [] :: components gs
    else
      match components gs with
      | [] => [[g]]
      | c :: cs => (g :: c) :: cs

/-- How names are looked for: whether the two directories that are everywhere count, whether
hidden names need not be asked for, and whether two stars go down into directories. -/
structure Search extends Glob.Style where
  dots : Bool := false
  hidden : Bool := false
  deep : Bool := false

/-- The names that a component stands for. Hidden ones must be asked for. -/
def componentNames (st : Search) (t : FileTree) (base : Text) (c : List Glyph) : List Text :=
  let is := Glob.items c st.extended
  let asked := match is with
    | .exact '.' :: _ => true
    | _ => false
  let names := (if asked && st.dots then [['.'], ['.', '.']] else []) ++ namesIn t base
  names.filter fun n =>
    (asked || st.hidden || n.head? ≠ some '.') && Glob.covers st.toStyle is n

/-- A text with the backslashes of patterns taken away. -/
def literalOf (c : List Glyph) : Text :=
  (Glob.items c).filterMap fun
    | .exact d => some d
    | _ => none

def isDeep (st : Search) (c : List Glyph) : Bool :=
  st.deep && c.map (·.char) = ['*', '*'] && !c.any (·.quoted)

/-- All paths below a directory, with whether each is a directory itself. -/
def below (st : Search) (t : FileTree) : Nat → Text → List (Text × Bool)
  | 0, _ => []
  | n + 1, base =>
    (namesIn t base).flatMap fun name =>
      if name.head? = some '.' && !st.hidden then []
      else
        let path := base ++ name
        match nodeAt? t false path with
        | some (.dir _) => (path, true) :: below st t n (path ++ ['/'])
        | _ => [(path, false)]

/-- How deep directories may be nested. -/
def depth : Nat := 10000

/-- The paths that begin with `base` and go on as the components say. -/
def expandFrom (st : Search) (t : FileTree) : Text → List (List Glyph) → List Text
  | base, [] => [base]
  | base, [c] =>
    if isDeep st c then (if base = [] then [] else [base]) ++ (below st t depth base).map (·.1)
    else if Glob.isPattern c st.extended then (componentNames st t base c).map (base ++ ·)
    else
      let path := base ++ literalOf c
      if (nodeAt? t false path).isSome then [path] else []
  | base, c :: cs =>
    if isDeep st c then
      let dirs := (below st t depth base).filterMap fun (p, isDir) => if isDir then some p else none
      expandFrom st t base cs ++ dirs.flatMap fun d => expandFrom st t (d ++ ['/']) cs
    else if Glob.isPattern c st.extended then
      (componentNames st t base c).flatMap fun n =>
        match nodeAt? t true (base ++ n) with
        | some (.dir _) => expandFrom st t (base ++ n ++ ['/']) cs
        | _ => []
    else expandFrom st t (base ++ literalOf c ++ ['/']) cs

/-- The paths of a pattern in order; none if it is no pattern or nothing is there. -/
def paths (st : Search) (t : FileTree) (field : List Glyph) : List Text :=
  if Glob.isPattern field st.extended then
    ((expandFrom st t [] (components field)).mergeSort fun a b => !(b < a)).eraseDups
  else []

end TestWeaver.Pattern
