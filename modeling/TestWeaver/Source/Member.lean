import TestWeaver.Source.Annotation
import TestWeaver.Source.Header

/-!
Methods as the scanner reports them: a header read off one line, with the lines it spans.

A header whose result type is its own name is a constructor, and one with a modifier or a
statement keyword in the place of the type is no method at all.
-/

namespace TestWeaver.Source

/-- A method and the lines it spans, first and last included. -/
structure Member where
  name : Text
  modifiers : List Text
  resultType : Text
  parameters : Text
  startLine : Int
  endLine : Int
deriving DecidableEq, Repr

/-- The header in one line: modifiers, type, name and parameters. -/
def Member.signature (m : Member) : Text :=
  Text.trim (Text.joinWith ' ' m.modifiers ++ ' ' :: m.resultType ++ ' ' :: m.name ++
    '(' :: m.parameters ++ [')'])

/-- Words that open a statement and can stand where a result type would. -/
def statementKeywords : List Text :=
  ["return", "new", "else", "throw", "case", "yield"].map String.toList

/-- The method that a line declares. -/
def member? (line : Text) (number : Int) : Option Member :=
  match header? (dropAnnotations line) with
  | none => none
  | some h =>
    if h.resultType = h.name then none
    else if h.resultType ∈ memberModifiers || h.resultType ∈ statementKeywords then none
    else some ⟨h.name, h.modifiers, h.resultType, Text.trim h.parameters, number, number⟩

end TestWeaver.Source
