import TestWeaver.Merge.ImportSet

/-!
The imports of a source that can name other sources of the same project: those that do not
start with the name of a platform or library.
-/

namespace TestWeaver.Dependency

def standardPrefixes : List Text :=
  ["java.", "javax.", "org.junit", "org.mockito"].map String.toList

/-- What a source imports from, first occurrences in order, without the names that start with
one of the `libraries`. -/
def targets (source : Text) (libraries : List Text) : List Text :=
  Merge.distinct <| ((Source.dependencies source).map Source.Dependency.reduced).filter
    fun t => !libraries.any (Text.startsWith t)

end TestWeaver.Dependency
