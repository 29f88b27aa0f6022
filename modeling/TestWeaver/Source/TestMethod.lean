import TestWeaver.Source.Statement
import TestWeaver.Text.Lines

/-!
Finding test methods: an annotation line arms the search, and the next line that declares a
`void` method disarms it.
-/

namespace TestWeaver.Source

/-- Whether a line starts with the test annotation. -/
def annotatesTest (line : Text) : Bool :=
  match Text.after? "@Test".toList (Text.trimStart line) with
  | none => false
  | some [] => true
  | some (c :: _) => !Text.isWordChar c

def accessModifiers : List Text := ["public", "private", "protected"].map String.toList

/-- The name of the `void` method that a line declares. -/
def testMethod? (line : Text) : Option Text := do
  let s := Text.trimStart line
  let s := ((Text.afterAny? accessModifiers s).map Prod.snd).getD s
  let s ← afterKeyword? "void" s
  let (name, s) ← Text.word? s
  let _ ← Text.after? ['('] (Text.trimStart s)
  return name

def testMethodsIn (armed : Bool) : List Text → List Text
  | [] => []
  | l :: ls =>
    if annotatesTest l then testMethodsIn true ls
    else if armed then
      match testMethod? l with
      | some name => name :: testMethodsIn false ls
      | none => testMethodsIn true ls
    else testMethodsIn false ls

/-- The names of the test methods in file order. -/
def testMethods (source : Text) : List Text := testMethodsIn false (Text.lines source)

end TestWeaver.Source
