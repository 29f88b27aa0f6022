import TestWeaver.Decimal.Binary64
import TestWeaver.Text.Utf8

/-!
Values that a document can hold.
-/

namespace TestWeaver.Yaml

/-- A value. Which moment a date is does not matter to any reader of values here. -/
inductive Value where
  | null
  | bool (b : Bool)
  | int (n : Int)
  | float (x : Binary64)
  | text (s : Text)
  | bytes (bs : Utf8.Octets)
  | moment
  | sequence (items : List Value)
  | mapping (entries : List (Value × Value))
  | set (items : List Value)
deriving Repr, Inhabited

namespace Value

/-- Null, false, zero and what is empty. -/
def isVoid : Value → Bool
  | null => true
  | bool b => !b
  | int n => n = 0
  | float (.finite _ m _) => m = 0
  | float _ => false
  | text s => s = []
  | bytes bs => bs = []
  | moment => false
  | sequence xs => xs.isEmpty
  | mapping es => es.isEmpty
  | set xs => xs.isEmpty

def isText (s : Text) : Value → Bool
  | text t => s = t
  | _ => false

/-- The entry under a textual key; of several the last one counts. -/
def lookup (key : Text) (es : List (Value × Value)) : Option Value :=
  (es.reverse.find? fun e => e.1.isText key).map (·.2)

end Value

end TestWeaver.Yaml
