import TestWeaver.Source.Declaration

/-!
The header of a method on one line: modifiers, type parameters, result type, name, parameters.

Angle brackets are closed at the nearest place that lets the rest of the header be read, and
hold no parentheses. The parameters end at the first closing parenthesis; what follows it is
not looked at.
-/

namespace TestWeaver.Source

structure Header where
  modifiers : List Text
  resultType : Text
  name : Text
  parameters : Text
deriving DecidableEq, Repr

def memberModifiers : List Text :=
  ["public", "private", "protected", "static", "final", "abstract", "synchronized", "native",
    "strictfp", "default"].map String.toList

/-- Tries `k` on each way to close an angle bracket, the nearest first, with the text inside
and the text behind. -/
def closeAngle {α : Type} (k : Text → Text → Option α) : Text → Option α
  | [] => none
  | c :: s =>
    if c = '(' || c = ')' then none
    else if c = '>' then (k [] s).or (closeAngle (fun i r => k (c :: i) r) s)
    else closeAngle (fun i r => k (c :: i) r) s

/-- The array marks at the start of a text, and the rest. -/
def arrayMarks : Text → Text × Text
  | '[' :: ']' :: s => ('[' :: ']' :: (arrayMarks s).1, (arrayMarks s).2)
  | s => ([], s)

/-- The part of a header behind the result type. -/
def named? (mods : List Text) (resultType s : Text) : Option Header := do
  let s ← Text.afterBlanks? s
  let (name, s) ← Text.word? s
  let s ← Text.after? ['('] (Text.trimStart s)
  let (parameters, _) ← Text.cut? [')'] s
  return ⟨mods, resultType, name, parameters⟩

/-- The part of a header from the result type on. -/
def typed? (mods : List Text) (s : Text) : Option Header := do
  let (base, s) ← Text.dotted? s
  match s with
  | '<' :: r =>
    closeAngle (fun i t => named? mods (base ++ '<' :: i ++ '>' :: (arrayMarks t).1)
      (arrayMarks t).2) r
  | _ => named? mods (base ++ (arrayMarks s).1) (arrayMarks s).2

def header? (line : Text) : Option Header :=
  let p := modifiers memberModifiers (Text.trimStart line)
  match p.2 with
  | '<' :: r => closeAngle (fun _ t => typed? p.1 (Text.trimStart t)) r
  | s => typed? p.1 s

end TestWeaver.Source
