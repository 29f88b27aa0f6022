import TestWeaver.Json.Basic
import TestWeaver.Source.Unit

/-!
Source units as JSON, their methods with all fields by name.
-/

namespace TestWeaver.Source

def Member.toJson (m : Member) : Json :=
  .object [("name".toList, .string m.name), ("modifiers".toList, .texts m.modifiers),
    ("result_type".toList, .string m.resultType), ("parameters".toList, .string m.parameters),
    ("start_line".toList, .integer m.startLine), ("end_line".toList, .integer m.endLine)]

def CompilationUnit.toJson (u : CompilationUnit) : Json :=
  .object [("namespace".toList, .string u.package), ("name".toList, .string u.name),
    ("members".toList, .array (u.members.map Member.toJson))]

end TestWeaver.Source
