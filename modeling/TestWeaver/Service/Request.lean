import TestWeaver.Json.Reading

/-!
Requests to the service: where they go, and the fields of their bodies.

A body is checked against a list of fields. Every field that is missing or no string is
reported, in the order of the list; an optional field may also be absent or null.
-/

namespace TestWeaver.Service

inductive Body where
  | none
  | raw (s : Text)
  | value (j : Json)

structure Request where
  method : Text
  path : Text
  body : Body

inductive Complaint where
  | missing
  | notString
  | notObject
  | notJson
deriving DecidableEq, Repr

def Complaint.name : Complaint → Text
  | missing => "missing".toList
  | notString => "string_type".toList
  | notObject => "model_attributes_type".toList
  | notJson => "json_invalid".toList

def Complaint.text : Complaint → Text
  | missing => "Field required".toList
  | notString => "Input should be a valid string".toList
  | notObject => "Input should be a valid dictionary or object to extract fields from".toList
  | notJson => "JSON decode error".toList

/-- What is wrong with a body, the place in it, and what stands there. -/
structure Invalid where
  complaint : Complaint
  place : List Json := []
  input : Json := .null

/-- Why a body is refused: it cannot be read at all, or it is not what is asked for. -/
inductive Refusal where
  | unreadable
  | invalid (faults : List Invalid)

/-- A field that a body must or may have. -/
structure Field where
  name : String
  required : Bool := true

/-- A text without the byte order mark that it may start with. -/
def dropMark : Text → Text
  | [] => []
  | c :: s => if c.toNat = 0xFEFF then s else c :: s

/-- The value of a body; without a single character there is none. -/
def Body.json? : Body → Except Refusal Json
  | none | raw [] => .error (.invalid [{ complaint := .missing }])
  | raw s =>
    match Wide.reread s with
    | .none => .error .unreadable
    | some s =>
      match Json.parse (dropMark s) with
      | .ok j => .ok j
      | .error (.senseless offset) =>
        .error (.invalid [{ complaint := .notJson, place := [.nat offset] }])
      | .error _ => .error .unreadable
  | value j => .ok j

def checkField (j : Json) (f : Field) : Except Invalid (Option Text) :=
  match j.field? f.name with
  | some (.string s) => .ok (some s)
  | some .null => if f.required then .error ⟨.notString, [.text f.name], .null⟩ else .ok .none
  | some v => .error ⟨.notString, [.text f.name], v⟩
  | .none => if f.required then .error ⟨.missing, [.text f.name], j⟩ else .ok .none

def checkFields (j : Json) : List Field → Except (List Invalid) (List (Option Text))
  | [] => .ok []
  | f :: fs =>
    match checkField j f, checkFields j fs with
    | .ok v, .ok vs => .ok (v :: vs)
    | .ok _, .error es => .error es
    | .error e, .ok _ => .error [e]
    | .error e, .error es => .error (e :: es)

/-- The values of the fields, in the order of the list. -/
def Body.fields (b : Body) (fs : List Field) : Except Refusal (List (Option Text)) := do
  match ← b.json? with
  | .object kvs => (checkFields (.object kvs) fs).mapError .invalid
  | j => .error (.invalid [{ complaint := .notObject, input := j }])

/-- Whether a request goes to an address. One newline behind it is overlooked. -/
def Request.goesTo (r : Request) (address : Text) : Bool :=
  r.path = address || r.path = address ++ ['\n']

end TestWeaver.Service
