import TestWeaver.Text.Basic

/-!
Conventions that pair a source root with a test root.

A convention applies to a path that has the source root as whole segments with something
behind them, and puts the test root there in its place.
-/

namespace TestWeaver.Layout

structure Convention where
  sourceRoot : Text
  testRoot : Text
deriving DecidableEq, Repr

/-- The path with the first occurrence of the source root replaced. -/
def Convention.testPath? (c : Convention) (path : Text) : Option Text :=
  (Text.cut? ('/' :: c.sourceRoot ++ ['/']) ('/' :: path)).map fun (before, after) =>
    (before ++ '/' :: c.testRoot ++ '/' :: after).drop 1

def Convention.defaults : List Convention := [
  ⟨"src/main/java".toList, "src/test/java".toList⟩,
  ⟨"main/java".toList, "test/java".toList⟩,
  ⟨"src/main/kotlin".toList, "src/test/kotlin".toList⟩]

def defaultTestRoot : Text := "src/test/java".toList

def dropDotSlashes : Text → Text
  | '.' :: '/' :: s => dropDotSlashes s
  | s => s

/-- The path with forward slashes and without the dots it starts with. -/
def normalize (path : Text) : Text := dropDotSlashes (Text.replaceChar '\\' '/' path)

end TestWeaver.Layout
