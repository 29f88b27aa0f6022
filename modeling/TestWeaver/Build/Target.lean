import TestWeaver.Text.Basic

/-!
Names of test targets: segments of ASCII letters, digits, underscores and dollars with dots
between them, no digit first, and perhaps a star at the end.
-/

namespace TestWeaver.Build

def maxTargetLength : Nat := 256

def isSegmentStart (c : Char) : Bool := c.isAlpha || c = '_' || c = '$'

def isSegmentChar (c : Char) : Bool := isSegmentStart c || c.isDigit

/-- Whether a text can end a target, inside a segment or in front of one. -/
def isTargetFrom (inSegment : Bool) : Text → Bool
  | [] => inSegment
  | c :: s =>
    if inSegment then
      if isSegmentChar c then isTargetFrom true s
      else if c = '.' then isTargetFrom false s
      else c = '*' && s = []
    else isSegmentStart c && isTargetFrom true s

def isTarget (name : Text) : Bool :=
  name.length ≤ maxTargetLength && isTargetFrom false name

end TestWeaver.Build
