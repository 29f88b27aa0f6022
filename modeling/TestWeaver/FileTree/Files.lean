import TestWeaver.FileTree.Walk

/-!
Reading and changing the files of a tree by path.

Paths are followed from the current directory. A failure keeps the path as the caller wrote
it, which is the path its message shows. What depends on the machine is told by its `Host`: which
texts cannot be written as names of files, and how many levels deep a program can go.
-/

namespace TestWeaver

open FileTree (Node Place Cause)

/-- What a machine sets bounds to. `unnamed` tells why a text is no name of a file, if it has
characters that names are not written with. The levels are those of directories walked through, of
links inside of links, and of missing directories made at once; none is the machine that has no
bound. -/
structure FileTree.Host where
  unnamed : Text → Option Text := fun _ => none
  walkLevels : Option Nat := none
  linkLevels : Option Nat := none
  makeLevels : Option Nat := none

/-- A file system, the current directory in it, the home directory of the user, and the machine. -/
structure FileTree where
  root : Node
  here : Place
  home : Path := ⟨.slash, ["root".toList]⟩
  host : FileTree.Host := {}

namespace FileTree

/-- Why an operation on files fails. -/
inductive Trouble where
  | refused (cause : Cause) (path : Text)
  | nullByte
  | unnamed (message : Text)
  | linkCircle (path : Text)
  | noHome
  | tooDeep
deriving DecidableEq, Repr

def Trouble.message : Trouble → Text
  | refused c p =>
    "[Errno ".toList ++ Utf8.number c.number ++ "] ".toList ++ c.text ++ ": ".toList ++
      Text.quoted p
  | nullByte => "embedded null byte".toList
  | unnamed m => m
  | linkCircle p => "Symlink loop from ".toList ++ Text.quoted p
  | noHome => "Could not determine home directory.".toList
  | tooDeep => "maximum recursion depth exceeded".toList

/-- Whether a text is turned down before any file is looked for. -/
def Trouble.isNaming : Trouble → Bool
  | nullByte | unnamed _ => true
  | _ => false

abbrev Outcome := Except Trouble

/-- Why a text cannot be handed to the machine as a name, if it cannot. -/
def misnamed? (t : FileTree) (s : Text) : Option Trouble :=
  match t.host.unnamed s with
  | some m => some (.unnamed m)
  | none => if s.contains (Char.ofNat 0) then some .nullByte else none

/-- The place of a path and the node there, if any. -/
def locate (t : FileTree) (last : Bool) (p : Path) : Outcome (Place × Option Node) :=
  let s := p.toText
  match t.misnamed? s with
  | some e => .error e
  | none =>
    match follow t.root t.here last s with
    | .ok r => .ok r
    | .error c => .error (.refused c s)

def stat (t : FileTree) (p : Path) : Outcome Node :=
  (t.locate true p).bind fun
    | (_, some e) => .ok e
    | (_, none) => .error (.refused .noEntry p.toText)

/-- Whether a path leads to a node of a kind. A path that leads nowhere is an answer, one with a
name that is too long is not. -/
def test (t : FileTree) (kind : Node → Bool) (p : Path) : Outcome Bool :=
  match t.stat p with
  | .ok e => .ok (kind e)
  | .error (.refused .nameTooLong s) => .error (.refused .nameTooLong s)
  | .error _ => .ok false

def exists? (t : FileTree) (p : Path) : Outcome Bool := t.test (fun _ => true) p

def isFile (t : FileTree) (p : Path) : Outcome Bool := t.test Node.isFile p

def isDir (t : FileTree) (p : Path) : Outcome Bool := t.test Node.isDir p

def readOctets (t : FileTree) (p : Path) : Outcome Utf8.Octets :=
  (t.stat p).bind fun
    | .file bs _ => .ok bs
    | _ => .error (.refused .isDirectory p.toText)

/-- Puts new octets into a file, which is made if it is missing; `change` gets the octets that
were there. -/
def update (t : FileTree) (p : Path) (change : Utf8.Octets → Utf8.Octets) : Outcome FileTree :=
  (t.locate true p).bind fun
    | (place, some (.file bs x)) => .ok { t with root := Node.put (.file (change bs) x) place t.root }
    | (place, none) => .ok { t with root := Node.put (.file (change []) false) place t.root }
    | _ => .error (.refused .isDirectory p.toText)

def writeOctets (t : FileTree) (p : Path) (bs : Utf8.Octets) : Outcome FileTree :=
  t.update p fun _ => bs

def appendOctets (t : FileTree) (p : Path) (bs : Utf8.Octets) : Outcome FileTree :=
  t.update p (· ++ bs)

/-- Puts a node where there is none. -/
def make (t : FileTree) (p : Path) (node : Node) : Outcome FileTree :=
  (t.locate false p).bind fun
    | (_, some _) => .error (.refused .exists p.toText)
    | (place, none) => .ok { t with root := Node.put node place t.root }

/-- Takes a node away. A directory goes only together with all that is in it. -/
def remove (t : FileTree) (withDirs : Bool) (p : Path) : Outcome FileTree :=
  (t.locate false p).bind fun
    | (_, none) => .error (.refused .noEntry p.toText)
    | (place, some node) =>
      if node.isDir && !withDirs then .error (.refused .isDirectory p.toText)
      else
        match t.root.get? place.dropLast with
        | some (.dir es) =>
          let left := es.erase (place.getLast?.getD [])
          .ok { t with root := Node.put (.dir left) place.dropLast t.root }
        | _ => .ok t

/-- Accepts a failure to make a directory if the directory is there. -/
def orPresent (t : FileTree) (p : Path) : Outcome FileTree → Outcome FileTree
  | .ok u => .ok u
  | .error e =>
    if e.isNaming then .error e
    else (t.isDir p).bind fun there => if there then .ok t else .error e

/-- Makes a directory, and those above it that are missing, as many of them as the number says. -/
def makeDirsIn (t : FileTree) (p : Path) : Nat → Outcome FileTree
  | 0 =>
    match t.make p (.dir .nil) with
    | .error (.refused .noEntry s) =>
      if p.parts = [] then .error (.refused .noEntry s) else .error .tooDeep
    | r => t.orPresent p r
  | n + 1 =>
    match t.make p (.dir .nil) with
    | .error (.refused .noEntry s) =>
      if p.parts = [] then .error (.refused .noEntry s)
      else (t.makeDirsIn p.parent n).bind fun u => u.orPresent p (u.make p (.dir .nil))
    | r => t.orPresent p r

/-- Makes a directory and the missing ones above it; one that is there already is fine. -/
def makeDirs (t : FileTree) (p : Path) : Outcome FileTree :=
  t.makeDirsIn p (t.host.makeLevels.getD p.parts.length)

/-- Users whose home directory is known, and the empty name for the current user. -/
def users : List Text := [[], "root".toList]

/-- The path with a home directory in place of a leading tilde, which a user's name may follow. -/
def expandHome (t : FileTree) (p : Path) : Outcome Path :=
  match p.root, p.parts with
  | .none, ('~' :: user) :: ps =>
    if user ∈ users then .ok { t.home with parts := t.home.parts ++ ps }
    else .error ((t.misnamed? user).getD .noHome)
  | _, _ => .ok p

/-- The path from the top without empty and double dots, links not looked at. -/
def absolute (t : FileTree) (p : Path) : Path :=
  ⟨if p.root = .doubleSlash then .doubleSlash else .slash, placeOf t.here p⟩

end FileTree

end TestWeaver
