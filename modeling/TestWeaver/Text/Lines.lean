import TestWeaver.Text.Basic

/-!
Lines in the wide sense of Unicode: the vertical controls, the separators U+001C to U+001E and
the line and paragraph separators end a line as the newline does, and a carriage return
directly before a newline belongs to it. A break at the very end opens no further line.
-/

namespace TestWeaver.Text

def isLineBreak (c : Char) : Bool :=
  let n := c.toNat
  (0x0A ≤ n && n ≤ 0x0D) || (0x1C ≤ n && n ≤ 0x1E) || n == 0x85 || n == 0x2028 || n == 0x2029

def lines : Text → List Text
  | [] => []
  | c :: s =>
    if c = '\r' && s.head? = some '\n' then lines s
    else if isLineBreak c then [] :: lines s
    else
      match lines s with
      | [] => [[c]]
      | l :: ls => (c :: l) :: ls

end TestWeaver.Text
