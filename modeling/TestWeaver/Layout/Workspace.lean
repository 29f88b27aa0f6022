import TestWeaver.Failure
import TestWeaver.FileTree.RealPath
import TestWeaver.Layout.Resolver

/-!
Layouts inside a workspace: source files are taken relative to the root, both with their links
followed, and a source outside the root is refused.
-/

namespace TestWeaver.Layout

/-- What is left of a path below another one. -/
def below? (root p : Path) : Option Path :=
  if root.root = p.root && root.parts.isPrefixOf p.parts then
    some ⟨.none, p.parts.drop root.parts.length⟩
  else none

/-- The way from the root to a source. A path that no file can have lies outside. -/
def relative (t : FileTree) (source root : Path) : Except Failure Text :=
  let outside := Failure.outsideWorkspace source root
  let lost := fun (e : FileTree.Trouble) => if e.isNaming then outside else .files e
  match t.realPath source, t.realPath root with
  | .ok s, .ok r =>
    match below? r s with
    | some p => .ok p.toText
    | none => .error outside
  | .error e, _ => .error (lost e)
  | .ok _, .error e => .error (lost e)

/-- The test file of a source in a workspace. -/
def Resolver.testFile (r : Resolver) (t : FileTree) (source root : Path)
    (override : Option Text) : Except Failure Path :=
  match override with
  | some (c :: o) => .ok (root / Path.ofText (c :: o))
  | _ =>
    (relative t source root).bind fun p =>
      match r.counterpart p with
      | .ok q => .ok (root / Path.ofText q)
      | .error e => .error (.name e)

def Resolver.fileLocation (r : Resolver) (t : FileTree) (source root : Path) :
    Except Failure Location := (relative t source root).map r.location

end TestWeaver.Layout
