import TestWeaver.Source.Scan

/-!
The row that closes the outermost type: the last one with a closing brace at whose end the
braces counted from the first type declaration on balance.
-/

namespace TestWeaver.Merge

def closingFrom (inType : Bool) (depth : Int) (index : Nat) : List Text → Option Nat
  | [] => none
  | r :: rs =>
    if inType || Source.declaresType r then
      let d := depth + Source.braceDelta r
      (closingFrom true d (index + 1) rs).or (if d = 0 && r.contains '}' then some index else none)
    else closingFrom false depth (index + 1) rs

def closingRow? (s : Text) : Option Nat := closingFrom false 0 0 (Text.rows s)

end TestWeaver.Merge
