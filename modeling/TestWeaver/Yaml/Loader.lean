import TestWeaver.Config.Reading
import TestWeaver.Yaml.Document

/-!
The reader of documents as a reader of settings.
-/

namespace TestWeaver.Yaml

def Fault.raised : Fault → Config.Fault
  | malformed => .malformed
  | noValue m => .raised "ValueError".toList m
  | overflow m => .raised "OverflowError".toList m
  | notTruth w => .raised "KeyError".toList (Text.quoted w)
  | emptyNumeral => .raised "IndexError".toList "string index out of range".toList
  | tooManyDigits n =>
    .raised "ValueError".toList
      ("Exceeds the limit (4300 digits) for integer string conversion: value has ".toList ++
        Utf8.number n ++
        " digits; use sys.set_int_max_str_digits() to increase the limit".toList)
  | notMoment =>
    .raised "AttributeError".toList "'NoneType' object has no attribute 'groupdict'".toList
  | notText =>
    .raised "TypeError".toList "expected string or bytes-like object, got 'list'".toList
  | endless => .raised "RecursionError".toList "maximum recursion depth exceeded".toList

/-- Values are shown as deep as settings lie. -/
def load : Config.Loader := fun s => (Value.ofText Config.depth s).mapError Fault.raised

end TestWeaver.Yaml
