import TestWeaver.Build.Tool

/-!
Telling from a build's output whether its tests passed.

Each tool has a table of markers, looked for in the lower-cased output. A success marker
decides at once. The generic marker passes a run without vetoes and failure markers, and so
does the absence of failure markers.
-/

namespace TestWeaver.Build

structure Signals where
  success : List Text := []
  generic : Option Text := none
  vetoes : List Text := []
  failure : List Text := []
deriving DecidableEq, Repr

def anyIn (markers : List Text) (s : Text) : Bool := markers.any (Text.includes · s)

def Signals.passed (g : Signals) (lowered : Text) : Bool :=
  anyIn g.success lowered ||
    ((g.generic.map (Text.includes · lowered)).getD false && !anyIn g.vetoes lowered &&
      !anyIn g.failure lowered) ||
    !anyIn g.failure lowered

def Tool.signals : Tool → Signals
  | .gradle => {
      success := ["build successful".toList]
      generic := some "test".toList
      vetoes := ["failed", "failure"].map String.toList
      failure := ["build failed", "test failed", "failures:"].map String.toList }
  | .maven => {
      success := ["build success".toList]
      failure := ["build failure", "tests run:", "failures:"].map String.toList }
  | .unknown => { failure := ["fail", "error"].map String.toList }

def passed (tool : Tool) (output : Text) : Bool := tool.signals.passed (Text.lower output)

end TestWeaver.Build
