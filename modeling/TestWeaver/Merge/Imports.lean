import TestWeaver.Merge.ImportSet
import TestWeaver.Merge.Insertion
import TestWeaver.Source.Annotation
import TestWeaver.Source.Declaration

/-!
Adding a fragment's imports to an existing text.

The new rows go behind the last import above the first type. Without an import they go in
front of that type and the annotation rows directly above it, or behind the package row where
there is no type, with one empty row below.
-/

namespace TestWeaver.Merge

def isImportRow (row : Text) : Bool := (Source.afterKeyword? "import" row).isSome

def isPackageRow (row : Text) : Bool := (Source.afterKeyword? "package" row).isSome

/-- The rows that an insertion can hold on to. Rows below the type are not looked at. -/
structure Landmarks where
  lastImport : Option Nat := none
  lastPackage : Option Nat := none
  type : Option Nat := none
deriving DecidableEq, Repr

def Landmarks.at (m : Landmarks) (index : Nat) (row : Text) : Landmarks :=
  if isImportRow row then { m with lastImport := some index }
  else if isPackageRow row then { m with lastPackage := some index }
  else m

def landmarksFrom (m : Landmarks) (index : Nat) : List Text → Landmarks
  | [] => m
  | r :: rs =>
    if Source.declaresType r then { m with type := some index }
    else landmarksFrom (m.at index r) (index + 1) rs

def landmarks (rows : List Text) : Landmarks := landmarksFrom {} 0 rows

/-- The number of annotation rows directly above row `index`. -/
def annotationsAbove (rows : List Text) (index : Nat) : Nat :=
  ((rows.take index).reverse.takeWhile Source.startsAnnotation).length

/-- How many rows stay above new imports, and whether these rows end with an import. -/
def importPosition (rows : List Text) : Nat × Bool :=
  let m := landmarks rows
  match m.lastImport, m.type, m.lastPackage with
  | some i, _, _ => (i + 1, true)
  | none, some t, _ => (t - annotationsAbove rows t, false)
  | none, none, some p => (p + 1, false)
  | none, none, none => (0, false)

def importRow (directive : Text) : Text := "import ".toList ++ directive ++ [';']

/-- The rows to add, if the fragment has an import that the existing text lacks. -/
def importInsertion? (existing fragment : Text) : Option Insertion :=
  match (missingImports existing fragment).items with
  | [] => none
  | ds =>
    let p := importPosition (Text.rows existing)
    some ⟨p.1, ds.map importRow ++ if p.2 then [] else [[]]⟩

/-- The existing text with the fragment's missing imports. -/
def mergeImports (existing fragment : Text) : Text :=
  match importInsertion? existing fragment with
  | none => existing
  | some i => i.applyText existing

end TestWeaver.Merge
