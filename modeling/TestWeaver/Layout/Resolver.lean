import TestWeaver.Layout.Convention
import TestWeaver.Path.Basic

/-!
Where the tests of a source file live, and what a path says about the class in it.
-/

namespace TestWeaver.Layout

def defaultSuffix : Text := "Test".toList

/-- The suffix of test classes, and the conventions in the order in which they are tried. -/
structure Resolver where
  suffix : Text := defaultSuffix
  conventions : List Convention := Convention.defaults
deriving DecidableEq, Repr

/-- The path in the test tree: by the first convention that applies, or below the default
test root. -/
def Resolver.toTestTree (r : Resolver) (path : Text) : Text :=
  (r.conventions.findSome? fun c => c.testPath? path).getD
    (Path.ofText defaultTestRoot / Path.ofText path).toText

/-- The test file of a source file. A stem that has the suffix already keeps its path as it is
written. -/
def Resolver.counterpart (r : Resolver) (path : Text) : Except Path.NameError Text :=
  let t := r.toTestTree (normalize path)
  let p := Path.ofText t
  if Text.endsWith p.stem r.suffix then .ok t
  else (p.withName (p.stem ++ r.suffix ++ p.suffix)).map Path.toText

/-- As `counterpart`, unless a path that is not empty is given instead. -/
def Resolver.counterpartOr (r : Resolver) (path : Text) (override : Option Text) :
    Except Path.NameError Text :=
  match override with
  | some (c :: o) => .ok (c :: o)
  | _ => r.counterpart path

/-- The package and class that a path names. -/
structure Location where
  package : Text
  name : Text
  isTest : Bool
  path : Text
deriving DecidableEq, Repr

/-- The directories between a language directory at the start of a text and its last slash. -/
def packageDirsAt? (s : Text) : Option Text := do
  let (_, r) ← Text.afterAny? ["java/".toList, "kotlin/".toList] s
  let (dirs, file) ← Text.cutLast? '/' r
  if dirs = [] || dirs.contains '\n' || file = [] then none else some dirs

def packageDirsFrom? (atName : Bool) : Text → Option Text
  | [] => none
  | c :: s => (if atName then packageDirsAt? (c :: s) else none).or (packageDirsFrom? (c = '/') s)

/-- The directories behind the first language directory that has some behind it. -/
def packageDirs? (path : Text) : Option Text := packageDirsFrom? true path

def Resolver.location (r : Resolver) (path : Text) : Location :=
  let s := normalize path
  let p := Path.ofText s
  { package := Text.replaceChar '/' '.' ((packageDirs? s).getD [])
    name := p.stem
    isTest := p.parts.dropLast.contains "test".toList || Text.endsWith p.stem r.suffix
    path := s }

end TestWeaver.Layout
