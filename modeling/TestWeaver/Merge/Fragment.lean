import TestWeaver.Merge.Closing
import TestWeaver.Merge.Imports

/-!
Splicing the methods of a generated class into an existing one.

The methods of a fragment run from its first test annotation, indentation included, to its
last closing brace, blanks in front of the brace left out. They go directly above the row that
closes the existing type, under an empty row and a comment. A text with no such row gets the
whole fragment at its end.
-/

namespace TestWeaver.Merge

def marker : Text := "    // Additional test methods".toList

/-- The text before the closing brace that ends a fragment. -/
def beforeLastBrace? (fragment : Text) : Option Text :=
  match fragment.reverse.dropWhile Text.isBlank with
  | '}' :: r => some (Text.trimEnd r.reverse)
  | _ => none

def isIndent (c : Char) : Bool := c = ' ' || c = '\t'

/-- The text from the first test annotation on, spaces and tabs before it included. -/
def fromTest? : Text → Option Text
  | [] => none
  | c :: s =>
    if Text.startsWith ((c :: s).dropWhile isIndent) "@Test".toList then some (c :: s)
    else fromTest? s

/-- The methods of a generated class; a fragment that is no such class is taken whole. -/
def fragmentMembers (fragment : Text) : Text :=
  ((beforeLastBrace? fragment).bind fromTest?).getD fragment

/-- The rows to add, if the existing text has a closing row. -/
def fragmentInsertion? (existing fragment : Text) : Option Insertion :=
  (closingRow? existing).map fun c => ⟨c, [] :: marker :: Text.rows (fragmentMembers fragment)⟩

/-- The existing text with the fragment's methods. -/
def mergeFragment (existing fragment : Text) : Text :=
  match fragmentInsertion? existing fragment with
  | none => existing ++ '\n' :: '\n' :: fragment
  | some i => i.applyText existing

/-- The existing text with the fragment's imports and methods. -/
def mergeGenerated (existing fragment : Text) : Text :=
  mergeFragment (mergeImports existing fragment) fragment

/-- One merge in a sequence. -/
inductive Step where
  | imports (fragment : Text)
  | members (fragment : Text)
  | both (fragment : Text)
deriving DecidableEq, Repr

def Step.apply (existing : Text) : Step → Text
  | imports f => mergeImports existing f
  | members f => mergeFragment existing f
  | both f => mergeGenerated existing f

/-- The text after each step. -/
def history (existing : Text) : List Step → List Text
  | [] => []
  | s :: ss => s.apply existing :: history (s.apply existing) ss

end TestWeaver.Merge
