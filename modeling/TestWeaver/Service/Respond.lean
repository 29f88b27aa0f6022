import TestWeaver.Build.Summary
import TestWeaver.Json.Printing
import TestWeaver.Layout.Resolver
import TestWeaver.Merge.Fragment
import TestWeaver.Service.Request
import TestWeaver.Source.Listing

/-!
The answers of the service.

Four addresses take a body and one takes none. Where slashes at the end are all that is wrong with
an address, the request is sent on to the right one. What a handler cannot answer is the caller's
fault if the library foresees it, and the service's own fault otherwise; so is an answer that
cannot be written.
-/

namespace TestWeaver.Service

inductive Response where
  | answered (status : Nat) (body : Json)
  | moved
  | invalid (faults : List Invalid)
  | crashed (failure : Failure)

abbrev Handler := Layout.Resolver → Body → Response

structure Endpoint where
  method : Text
  path : Text
  handler : Handler

def ok (fields : List (String × Json)) : Response :=
  .answered 200 (.object (fields.map fun f => (f.1.toList, f.2)))

def detail (status : Nat) (message : Text) : Response :=
  .answered status (.object [("detail".toList, .string message)])

def failed (e : Failure) : Response := if e.isExpected then detail 400 e.message else .crashed e

/-- Runs a handler on the fields that it asks for. -/
def withFields (fs : List Field) (b : Body) (k : List (Option Text) → Response) : Response :=
  match b.fields fs with
  | .error (.invalid es) => .invalid es
  | .error .unreadable => detail 400 "There was an error parsing the body".toList
  | .ok vs => k vs

def health : Handler := fun _ _ => ok [("status", .text "ok")]

def scan : Handler := fun _ b =>
  withFields [{ name := "content" }] b fun vs =>
    match Source.unit? ((vs.head?.join).getD []) with
    | none => ok [("found", .bool false), ("unit", .null)]
    | some u => ok [("found", .bool true), ("unit", u.toJson)]

def resolve : Handler := fun r b =>
  withFields [{ name := "path" }, { name := "override", required := false }] b fun
    | [some path, override] =>
      let l := r.location path
      match r.counterpartOr path override with
      | .error e => failed (.name e)
      | .ok t =>
        ok [("test_path", .string t), ("namespace", .string l.package), ("name", .string l.name),
          ("is_counterpart", .bool l.isTest)]
    | _ => .invalid []

def merge : Handler := fun _ b =>
  withFields [{ name := "existing" }, { name := "fragment" }] b fun
    | [some existing, some fragment] =>
      ok [("content", .string (Merge.mergeGenerated existing fragment)),
        ("added_imports", .texts (Merge.missingImports existing fragment).items)]
    | _ => .invalid []

def classify : Handler := fun _ b =>
  withFields [{ name := "output" }, { name := "tool", required := false }] b fun
    | [some output, tool] =>
      let r := Build.result ((tool.map Build.Tool.ofText).getD .unknown) {} output
      ok [("passed", .bool r.passed), ("summary", .string r.summary),
        ("tool", .string r.tool.name)]
    | _ => .invalid []

def endpoints : List Endpoint := [
  ⟨"GET".toList, "/health".toList, health⟩, ⟨"POST".toList, "/scan".toList, scan⟩,
  ⟨"POST".toList, "/resolve".toList, resolve⟩, ⟨"POST".toList, "/merge".toList, merge⟩,
  ⟨"POST".toList, "/classify".toList, classify⟩]

def Invalid.toJson (e : Invalid) : Json :=
  .object [("type".toList, .string e.complaint.name), ("loc".toList, .array (.text "body" :: e.place)),
    ("msg".toList, .string e.complaint.text), ("input".toList, e.input)]

/-- Why a body cannot be written, if it cannot: numbers are finite, and halves of surrogate pairs
have no octets. -/
def unwritable? (body : Json) : Option Failure :=
  if !body.isFinite then
    some (.value "Out of range float values are not JSON compliant".toList)
  else (Wide.fault? body.compact).map .unencodable

def Response.body? : Response → Option Json
  | answered _ j => some j
  | invalid es => some (.object [("detail".toList, .array (es.map Invalid.toJson))])
  | moved | crashed _ => none

/-- A response that can be written, or the reason why it cannot. -/
def Response.checked (r : Response) : Response :=
  match r.body?.bind unwritable? with
  | none => r
  | some e => .crashed e

/-- Whether slashes at the end are all that keeps a request from an address. -/
def Request.isNear (r : Request) (address : Text) : Bool :=
  r.path.getLast? = some '/' &&
    ({ r with path := (r.path.reverse.dropWhile (· = '/')).reverse } : Request).goesTo address

def respond (resolver : Layout.Resolver) (r : Request) : Response :=
  match endpoints.find? fun e => r.goesTo e.path with
  | some e =>
    if e.method = r.method then (e.handler resolver r.body).checked
    else detail 405 "Method Not Allowed".toList
  | none =>
    if endpoints.any fun e => r.isNear e.path then .moved
    else detail 404 "Not Found".toList

end TestWeaver.Service
