import TestWeaver.Decimal.Notation

/-!
JSON values. The fields of an object keep their order, and a name comes once.
-/

namespace TestWeaver

inductive Json where
  | null
  | bool (b : Bool)
  | integer (n : Int)
  | number (x : Binary64)
  | string (s : Text)
  | array (items : List Json)
  | object (fields : List (Text × Json))

namespace Json

instance : Inhabited Json := ⟨null⟩

def text (s : String) : Json := string s.toList

def texts (ss : List Text) : Json := array (ss.map string)

def nat (n : Nat) : Json := integer n

/-- The fields with one more; a name that is there keeps its place and takes the new value. -/
def setField (name : Text) (value : Json) : List (Text × Json) → List (Text × Json)
  | [] => [(name, value)]
  | (n, v) :: fs => if n = name then (n, value) :: fs else (n, v) :: setField name value fs

def field? (name : String) : Json → Option Json
  | object fs => (fs.find? fun f => f.1 = name.toList).map Prod.snd
  | _ => none

mutual

/-- Whether every number in a value is finite. -/
def isFinite : Json → Bool
  | number .nan | number (.infinite _) => false
  | array js => allFinite js
  | object fs => fieldsFinite fs
  | _ => true

def allFinite : List Json → Bool
  | [] => true
  | j :: js => isFinite j && allFinite js

def fieldsFinite : List (Text × Json) → Bool
  | [] => true
  | (_, j) :: fs => isFinite j && fieldsFinite fs

end

end Json

end TestWeaver
