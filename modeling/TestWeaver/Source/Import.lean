import TestWeaver.Source.Statement

/-!
Import statements, read in two ways.

As a directive a statement is the text between the keyword and the semicolon: `static` if it
is there, the name, and a star. The name is read as far as it goes. As a dependency the same
statement is taken apart, and the name is read only as far as it must. `static` is a name of
its own where no other name follows it.
-/

namespace TestWeaver.Source

/-- The imported name, perhaps with a star behind its last dot, up to the semicolon. -/
def directiveName? (s : Text) : Option (Text × Text) :=
  match Text.dotted? s with
  | none => none
  | some (name, r) =>
    match afterSemicolon? r, r with
    | some t, _ => some (name, t)
    | none, '*' :: t =>
      if Text.endsWith name ['.'] && 2 ≤ name.length then
        (afterSemicolon? t).map (name ++ ['*'], ·)
      else none
    | none, _ => none

/-- The directive of the import statement at the start of the text, and what follows it. -/
def directive? (s : Text) : Option (Text × Text) := do
  let s ← afterKeyword? "import" s
  let behindStatic := (Text.after? "static".toList s).bind Text.afterBlanks?
  let static := (behindStatic.bind directiveName?).map fun p => ("static ".toList ++ p.1, p.2)
  static.or (directiveName? s)

/-- All directives of a text in order, repeated ones included. -/
def directives (source : Text) : List Text := statements directive? source

/-- An import statement taken apart. -/
structure Dependency where
  isStatic : Bool
  target : Text
  wildcard : Bool
deriving DecidableEq, Repr

/-- The end of an import statement, with or without a star. -/
def afterStar? : Text → Option (Bool × Text)
  | '.' :: '*' :: s =>
    ((afterSemicolon? s).map (true, ·)).or ((afterSemicolon? ('.' :: '*' :: s)).map (false, ·))
  | s => (afterSemicolon? s).map (false, ·)

/-- The shortest name behind which an import statement can end. -/
def dependencyName? : Text → Option (Text × Bool × Text)
  | [] => none
  | c :: s =>
    if Text.isDottedChar c then
      match afterStar? s with
      | some (wildcard, r) => some ([c], wildcard, r)
      | none => (dependencyName? s).map fun p => (c :: p.1, p.2)
    else none

def dependencyFrom? (isStatic : Bool) (s : Text) : Option (Dependency × Text) :=
  (dependencyName? s).map fun (name, wildcard, r) => (⟨isStatic, name, wildcard⟩, r)

/-- The import statement at the start of the text taken apart, and what follows it. -/
def dependency? (s : Text) : Option (Dependency × Text) := do
  let s ← afterKeyword? "import" s
  let behindStatic := (Text.after? "static".toList s).bind Text.afterBlanks?
  (behindStatic.bind (dependencyFrom? true)).or (dependencyFrom? false s)

def dependencies (source : Text) : List Dependency := statements dependency? source

/-- What a source imports from: the package of a wildcard, the type that declares a static
member. -/
def Dependency.reduced (d : Dependency) : Text :=
  if d.isStatic && !d.wildcard then ((Text.cutLast? '.' d.target).map Prod.fst).getD d.target else d.target

end TestWeaver.Source
