import TestWeaver.Text.Quoted

/-!
Paths as roots and names, without a look at any file system.

Reading a path drops empty names and single dots, and keeps double dots. Exactly two leading
slashes are a root of their own; three or more count as one.
-/

namespace TestWeaver

inductive PathRoot where
  | none
  | slash
  | doubleSlash
deriving DecidableEq, Repr

/-- A path: where it starts and the names on the way. -/
structure Path where
  root : PathRoot
  parts : List Text
deriving DecidableEq, Repr

namespace Path

/-- The names in a text, empty ones and single dots left out. -/
def namesOf (s : Text) : List Text :=
  (Text.splitAt '/' s).filter fun p => p ≠ [] && p ≠ ['.']

def rootOf : Text → PathRoot
  | '/' :: '/' :: '/' :: _ => .slash
  | '/' :: '/' :: _ => .doubleSlash
  | '/' :: _ => .slash
  | _ => .none

def ofText (s : Text) : Path := ⟨rootOf s, namesOf s⟩

def PathRoot.text : PathRoot → Text
  | .none => []
  | .slash => ['/']
  | .doubleSlash => ['/', '/']

/-- The empty relative path is written as a single dot. -/
def toText (p : Path) : Text :=
  match p.root, p.parts with
  | .none, [] => ['.']
  | r, ps => PathRoot.text r ++ Text.joinWith '/' ps

/-- A path that has a root replaces the one it is joined to. -/
def join (a b : Path) : Path :=
  if b.root = .none then ⟨a.root, a.parts ++ b.parts⟩ else b

instance : Div Path := ⟨join⟩

def parent (p : Path) : Path := { p with parts := p.parts.dropLast }

/-- The last name, empty where there is none. -/
def name (p : Path) : Text := p.parts.getLast?.getD []

/-- A name cut at its last dot, if text stands on both sides of the dot. -/
def cutName (n : Text) : Text × Text :=
  match Text.cutLast? '.' n with
  | some (c :: a, d :: b) => (c :: a, '.' :: d :: b)
  | _ => (n, [])

/-- The name without its suffix. -/
def stem (p : Path) : Text := (cutName p.name).1

/-- The last dot of the name and what follows it. -/
def suffix (p : Path) : Text := (cutName p.name).2

/-- Why a path cannot take another last name. -/
inductive NameError where
  | emptyName (path : Path)
  | invalidName (name : Text)
deriving DecidableEq, Repr

def NameError.message : NameError → Text
  | .emptyName p =>
    "PurePosixPath(".toList ++ Text.quoted p.toText ++ ") has an empty name".toList
  | .invalidName n => "Invalid name ".toList ++ Text.quoted n

/-- A name is one part of a path and does not end with a slash. -/
def isName (n : Text) : Bool :=
  rootOf n = .none && (namesOf n).length = 1 && n.getLast? ≠ some '/'

/-- The path with its last name replaced. -/
def withName (p : Path) (n : Text) : Except NameError Path :=
  if p.name = [] then .error (.emptyName p)
  else if isName n then .ok { p with parts := p.parts.dropLast ++ [n] }
  else .error (.invalidName n)

@[simp] theorem parts_join {a b : Path} (h : b.root = .none) :
    (a / b).parts = a.parts ++ b.parts := by
  show (join a b).parts = _
  simp [join, h]

theorem name_withName {p q : Path} {n : Text} (h : p.withName n = .ok q) : q.name = n := by
  unfold withName at h
  split at h
  · simp at h
  · split at h
    · simp only [Except.ok.injEq] at h
      subst h
      simp [name]
    · simp at h

end Path

end TestWeaver
