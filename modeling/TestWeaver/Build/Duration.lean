import TestWeaver.Decimal.Notation

/-!
Durations in words: whole minutes from one minute on, and seconds otherwise.
-/

namespace TestWeaver.Build

/-- The number of minutes, if that is a whole number and not zero. -/
def wholeMinutes? : Binary64 → Option Nat
  | .finite false m e =>
    let p := Binary64.ratio m e
    let n := p.1 / (60 * p.2)
    if p.1 = 60 * p.2 * n && n ≠ 0 then some n else none
  | _ => none

def durationText (seconds : Binary64) : Text :=
  match wholeMinutes? seconds with
  | some n => Decimal.integer n ++ (if n = 1 then " minute" else " minutes").toList
  | none => Decimal.brief seconds ++ " seconds".toList

end TestWeaver.Build
