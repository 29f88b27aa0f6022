import TestWeaver.Build.Duration
import TestWeaver.FileTree.Files

/-!
Everything that can go wrong, by cause, with the message that a user sees.

The expected failures are those that the library raises itself, on bad configuration, paths
outside the workspace and build tools. The others are raised by the file system, by a value out of
range or by a library that the program uses; of the last kind only the name is known.
-/

namespace TestWeaver

inductive Failure where
  | files (trouble : FileTree.Trouble)
  | notAFile (path : Path)
  | undecodable (error : Utf8.DecodeError)
  | unencodable (message : Text)
  | name (error : Path.NameError)
  | value (message : Text)
  | overflow (message : Text)
  | raised (kind message : Text)
  | notText
  | notPath
  | malformedConfig (file : Text)
  | configNotMapping
  | outsideWorkspace (source root : Path)
  | noBuildFile (root : Path)
  | noCommand (tool : Text)
  | noArguments (tool : Text)
  | invalidTarget (name : Text)
  | launch (message : Text) (command : List Text) (exitCode : Option Int)
  | timedOut (seconds : Binary64) (command : List Text)
deriving DecidableEq, Repr

namespace Failure

def configFile : Text := ".testgen.yml".toList

def message : Failure → Text
  | files e => e.message
  | notAFile p => "Path exists but is not a file: ".toList ++ p.toText
  | undecodable e => e.message
  | unencodable m => m
  | name e => e.message
  | value m => m
  | overflow m => m
  | raised _ m => m
  | notText => "expected string or bytes-like object, got 'list'".toList
  | notPath => "expected str, bytes or os.PathLike object, not list".toList
  | malformedConfig f => "Failed to parse ".toList ++ f
  | configNotMapping => configFile ++ " must contain a mapping at the root".toList
  | outsideWorkspace s r =>
    s.toText ++ " is not inside the workspace ".toList ++ r.toText ++
      ". Open a folder or workspace.".toList
  | noBuildFile r => "No Maven or Gradle build file found in ".toList ++ r.toText
  | noCommand t => "No command known for build tool '".toList ++ t ++ ['\'']
  | noArguments t => "No arguments known for build tool '".toList ++ t ++ ['\'']
  | invalidTarget n =>
    "Invalid test class name ".toList ++ Text.quoted n ++
      ". Only valid Java class names are allowed.".toList
  | launch m _ _ => m
  | timedOut s _ => "Command timed out after ".toList ++ Build.durationText s

/-- Whether the library raises the failure itself. -/
def isExpected : Failure → Bool
  | malformedConfig _ | configNotMapping | outsideWorkspace _ _ | noBuildFile _ | noCommand _
  | noArguments _ | invalidTarget _ | launch _ _ _ | timedOut _ _ => true
  | _ => false

def isMissingFile : Failure → Bool
  | files (.refused .noEntry _) => true
  | _ => false

end Failure

/-- The text of a file, every line ending read as a newline. -/
def FileTree.readText (t : FileTree) (p : Path) : Except Failure Text :=
  match t.readOctets p with
  | .error e => .error (.files e)
  | .ok bs =>
    match Utf8.decode bs with
    | .error e => .error (.undecodable e)
    | .ok s => .ok (Utf8.unifyNewlines s)

end TestWeaver
