import TestWeaver.Text.Blank
import TestWeaver.Text.Word

/-!
Recognising the declaration of a type on a line: modifiers, one of four keywords, a name.
-/

namespace TestWeaver.Source

def modifiersIn (known : List Text) : Nat → Text → List Text × Text
  | 0, s => ([], s)
  | n + 1, s =>
    match Text.afterAny? known s with
    | none => ([], s)
    | some (m, r) =>
      match Text.afterBlanks? r with
      | none => ([], s)
      | some t =>
        let p := modifiersIn known n t
        (m :: p.1, p.2)

/-- The known modifiers at the start of a text, each followed by blanks, and the rest. -/
def modifiers (known : List Text) (s : Text) : List Text × Text := modifiersIn known s.length s

def typeModifiers : List Text :=
  ["public", "private", "protected", "abstract", "final", "static", "sealed", "non-sealed",
    "strictfp"].map String.toList

def typeKeywords : List Text := ["class", "interface", "enum", "record"].map String.toList

/-- The name of the type that a line declares. -/
def declaredType? (line : Text) : Option Text := do
  let (_, s) ← Text.afterAny? typeKeywords (modifiers typeModifiers (Text.trimStart line)).2
  let s ← Text.afterBlanks? s
  let (name, _) ← Text.word? s
  return name

def declaresType (line : Text) : Bool := (declaredType? line).isSome

end TestWeaver.Source
