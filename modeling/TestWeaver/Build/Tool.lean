import TestWeaver.Failure
import TestWeaver.Text.Lowercase

/-!
Build tools, and the files at a project's root that tell which one it uses.
-/

namespace TestWeaver.Build

inductive Tool where
  | gradle
  | maven
  | unknown
deriving DecidableEq, Repr

namespace Tool

def name : Tool → Text
  | gradle => "gradle".toList
  | maven => "maven".toList
  | unknown => "unknown".toList

def ofName? (s : Text) : Option Tool := [gradle, maven, unknown].find? (·.name = s)

/-- The tool of a name in any case; a name of none is the unknown tool. -/
def ofText (s : Text) : Tool := (ofName? (Text.lower s)).getD unknown

/-- Build files in the order in which they are looked for. -/
def descriptors : List (Text × Tool) := [
  ("build.gradle".toList, gradle), ("build.gradle.kts".toList, gradle),
  ("pom.xml".toList, maven)]

def detectIn (t : FileTree) (root : Path) : List (Text × Tool) → Except Failure Tool
  | [] => .error (.noBuildFile root)
  | (file, tool) :: ds =>
    match t.isFile (root / Path.ofText file) with
    | .error e => .error (.files e)
    | .ok true => .ok tool
    | .ok false => detectIn t root ds

/-- The tool whose build file is at the root. -/
def detect (t : FileTree) (root : Path) : Except Failure Tool := detectIn t root descriptors

end Tool

end TestWeaver.Build
