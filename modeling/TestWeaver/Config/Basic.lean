import TestWeaver.Build.Settings
import TestWeaver.Config.Coercion
import TestWeaver.Dependency.Targets
import TestWeaver.Layout.Resolver

/-!
The settings of a workspace. Every section and every field may be left out.
-/

namespace TestWeaver.Config

open Yaml (Value)

/-- What is passed on to a generator of tests. -/
structure Generation where
  testFramework : Text := "junit5".toList
  mockingFramework : Text := "mockito".toList
  coverageTarget : Int := 80
  edgeCases : Bool := true
  dependencies : Bool := true
deriving DecidableEq, Repr

/-- Names of test classes, and imports that are no dependencies. -/
structure Naming where
  suffix : Text := Layout.defaultSuffix
  libraries : List Text := Dependency.standardPrefixes
deriving DecidableEq, Repr

structure Sections where
  generation : Generation := {}
  build : Build.Settings := {}
  naming : Naming := {}
  logFile : Option Text := none
deriving DecidableEq, Repr

/-! ### fields -/

def get (es : Entries) (key : String) : Value := (Value.lookup key.toList es).getD .null

/-- A text that is not empty, or else the default. -/
def textOr (usual : Text) (v : Value) : Except Failure Text :=
  (asText v).map fun
    | some (c :: s) => c :: s
    | _ => usual

/-- A number above zero, or else the default. -/
def positiveOr (usual : Int) (v : Value) : Int :=
  match asInteger v with
  | some n => if 0 < n then n else usual
  | none => usual

def timeoutOr (usual : Binary64) (v : Value) : Except Failure Binary64 :=
  (asNumber v).map fun
    | some x => if x.isPositive then x else usual
    | none => usual

/-! ### sections -/

def Generation.ofEntries (es : Entries) : Except Failure Generation := do
  let usual : Generation := {}
  return {
    testFramework := ← textOr usual.testFramework (get es "test_framework")
    mockingFramework := ← textOr usual.mockingFramework (get es "mocking_framework")
    coverageTarget := (asInteger (get es "coverage_target")).getD usual.coverageTarget
    edgeCases := (asBool (get es "include_edge_cases")).getD usual.edgeCases
    dependencies := (asBool (get es "include_dependencies")).getD usual.dependencies }

def buildSettings (es : Entries) : Except Failure Build.Settings := do
  let usual : Build.Settings := {}
  return {
    timeout := ← timeoutOr usual.timeout (get es "timeout")
    summaryLines := positiveOr usual.summaryLines (get es "summary_lines")
    summaryChars := positiveOr usual.summaryChars (get es "summary_fallback_chars") }

/-- The list of libraries counts as soon as it is there, whatever it is. -/
def Naming.ofEntries (es : Entries) : Except Failure Naming := do
  let usual : Naming := {}
  return {
    suffix := ← textOr usual.suffix (get es "test_suffix")
    libraries := ←
      match Value.lookup "standard_prefixes".toList es with
      | none => pure usual.libraries
      | some v => asTexts v }

def Sections.ofEntries (es : Entries) : Except Failure Sections := do
  return {
    generation := ← Generation.ofEntries (asEntries (get es "generation"))
    build := ← buildSettings (asEntries (get es "build"))
    naming := ← Naming.ofEntries (asEntries (get es "resolver"))
    logFile := ← asText (get (asEntries (get es "log")) "file") }

end TestWeaver.Config
