import TestWeaver.FileTree.Files

/-!
Paths with every link followed.

The names of a path are looked at one after another. A link is gone through at once; a name that is
not there, or is no directory, is taken as it stands, and so is a link that leads back to itself,
with all that follows it. Links inside of links are followed as deep as the machine allows.
-/

namespace TestWeaver.FileTree

/-- One step up from a path without links. Steps above its start are spelled out. -/
def above (p : Path) : Path :=
  match p.parts.getLast? with
  | none => if p.root = .none then ⟨.none, [['.', '.']]⟩ else p
  | some n => if n = ['.', '.'] then ⟨p.root, p.parts ++ [n]⟩ else p.parent

/-- A name to go through, or the end of what a link stands for. -/
inductive Step where
  | name (n : Text)
  | leave (link : Path)

def Step.names (ss : List Step) : List Text :=
  ss.filterMap fun
    | name n => if n = [] || n = ['.'] then none else some n
    | leave _ => none

/-- How many steps a real path is looked for. -/
def maxSteps : Nat := 100000

/-- Goes on from a path without links; `opened` are the links that are being gone through. -/
def realFrom (t : FileTree) : Nat → List Path → Path → List Step → Outcome Path
  | 0, _, p, _ => .ok p
  | _ + 1, _, p, [] => .ok p
  | k + 1, opened, p, .leave l :: ss => t.realFrom k (opened.erase l) p ss
  | k + 1, opened, p, .name n :: ss =>
    if n = [] || n = ['.'] then t.realFrom k opened p ss
    else if n = ['.', '.'] then t.realFrom k opened (above p) ss
    else
      let q : Path := ⟨p.root, p.parts ++ [n]⟩
      match t.misnamed? q.toText, t.root.get? (placeOf t.here q) with
      | some e, _ => .error e
      | none, some (.link target) =>
        if opened.contains q then .ok ⟨q.root, q.parts ++ Step.names ss⟩
        else if t.host.linkLevels.any (· ≤ opened.length) then .error .tooDeep
        else
          t.realFrom k (q :: opened) (if target.head? = some '/' then ⟨.slash, []⟩ else p)
            ((stepsOf target).map .name ++ .leave q :: ss)
      | none, _ => t.realFrom k opened q ss

/-- The place of a path with every link followed, except for one that leads back to itself. -/
def realPlace (t : FileTree) (p : Path) : Outcome Place :=
  (t.realFrom maxSteps [] ⟨if p.root = .none then .none else .slash, []⟩ (p.parts.map .name)).map
    (placeOf t.here)

/-- The path from the top with every link followed, if links do not lead in a circle. -/
def realPath (t : FileTree) (p : Path) : Outcome Path :=
  (t.realPlace p).bind fun place =>
    let q := place.toPath
    match t.misnamed? q.toText, follow t.root [] true q.toText with
    | some e, _ => .error e
    | none, .error .linkLoop => .error (.linkCircle q.toText)
    | none, _ => .ok q

end TestWeaver.FileTree
