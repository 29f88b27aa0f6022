import TestWeaver.Source.Scan
import TestWeaver.Source.Statement

/-!
What a source text declares as a whole: its package, its first type and that type's methods.
-/

namespace TestWeaver.Source

/-- The package of a source text, the type it declares first, and the methods in it. -/
structure CompilationUnit where
  package : Text
  name : Text
  members : List Member
deriving DecidableEq, Repr

def package? (s : Text) : Option Text := do
  let s ← afterKeyword? "package" s
  let (name, s) ← Text.dotted? s
  let _ ← afterSemicolon? s
  return name

/-- The declared package, empty where there is none. -/
def packageName (source : Text) : Text := (firstStatement? package? source).getD []

/-- The name of the first type that a line declares, empty where there is none. -/
def typeName (source : Text) : Text := ((Text.lines source).findSome? declaredType?).getD []

def unit? (source : Text) : Option CompilationUnit :=
  match typeName source with
  | [] => none
  | name => some ⟨packageName source, name, members source⟩

end TestWeaver.Source
