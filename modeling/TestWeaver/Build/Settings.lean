import TestWeaver.Decimal.Binary64

/-!
Limits of a test run and of its summary.
-/

namespace TestWeaver.Build

def defaultTimeout : Binary64 := .ofRatio false 300 1

structure Settings where
  timeout : Binary64 := defaultTimeout
  summaryLines : Int := 30
  summaryChars : Int := 1000
deriving DecidableEq, Repr

end TestWeaver.Build
