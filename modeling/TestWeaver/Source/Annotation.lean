import TestWeaver.Text.Blank
import TestWeaver.Text.Word

/-!
Annotations in front of a declaration.

An annotation is an at sign, a dotted name and perhaps arguments, which end at the first
closing parenthesis. Nested parentheses are not understood.
-/

namespace TestWeaver.Source

/-- Cuts off parenthesised arguments; an open parenthesis that is never closed stays. -/
def dropArguments : Text → Text
  | '(' :: s => ((Text.cut? [')'] s).map Prod.snd).getD ('(' :: s)
  | s => s

/-- What follows an annotation at the start of the text. -/
def afterAnnotation? : Text → Option Text
  | '@' :: s => (Text.dotted? s).map fun p => dropArguments p.2
  | _ => none

def dropAnnotationsIn : Nat → Text → Text
  | 0, s => s
  | n + 1, s =>
    match afterAnnotation? s with
    | some r => dropAnnotationsIn n (Text.trimStart r)
    | none => s

/-- The line without the annotations it starts with; a line without any is left as it is, its
indentation included. -/
def dropAnnotations (line : Text) : Text :=
  match afterAnnotation? (Text.trimStart line) with
  | some r => dropAnnotationsIn r.length (Text.trimStart r)
  | none => line

/-- Whether the first character that is not blank is an at sign. -/
def startsAnnotation (line : Text) : Bool := (Text.trimStart line).head? = some '@'

end TestWeaver.Source
