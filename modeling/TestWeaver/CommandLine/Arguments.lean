import TestWeaver.CommandLine.Grammar

/-!
The commands of the program and their arguments.

The options for the log may stand in front of the command or behind it; what stands behind it
counts more. A path or a name whose option is given two dashes is missing, and so is a fragment
that is two dashes behind two others.
-/

namespace TestWeaver.CommandLine

inductive Command where
  | scan (file : Text)
  | resolve (file : Text) (root override : Option Text)
  | merge (existing : Text) (fragment : Option Text) (write backup : Bool)
  | deps (file : Text) (root : Option Text)
  | test (root : Text) (target : Option (Option Text))
deriving DecidableEq, Repr

def Command.name : Command → Text
  | scan _ => "scan".toList
  | resolve _ _ _ => "resolve".toList
  | merge _ _ _ _ => "merge".toList
  | deps _ _ => "deps".toList
  | test _ _ => "test".toList

structure Arguments where
  verbose : Bool
  logFile : Option Text
  command : Command
deriving DecidableEq, Repr

def optionNames (keys : List Key) : List (Text × Key) :=
  let names : List (String × Key) := [
    ("-h", .help), ("--help", .help), ("-v", .verbose), ("--verbose", .verbose),
    ("--log-file", .logFile), ("--root", .root), ("--override", .override), ("--write", .write),
    ("--backup", .backup), ("--target", .target)]
  (names.filter fun n => n.2 ∈ keys).map fun n => (n.1.toList, n.2)

def commonKeys : List Key := [.help, .verbose, .logFile]

def program : Text := "testgen".toList

def mainGrammar : Grammar := ⟨program, optionNames commonKeys, [⟨"command".toList, .rest⟩]⟩

/-- What a command takes: its options beside the common ones, its slots, and what it makes of
them. -/
structure CommandForm where
  name : String
  keys : List Key
  slots : List (String × SlotSize)
  build : Reading → Command

def rootOf (r : Reading) : Option Text := (r.option? .root).getD (some ['.'])

def commandForms : List CommandForm := [
  { name := "scan", keys := [], slots := [("file", .one)]
    build := fun r => .scan (r.word "file") },
  { name := "resolve", keys := [.root, .override], slots := [("file", .one)]
    build := fun r => .resolve (r.word "file") (rootOf r) (r.option? .override).join },
  { name := "merge", keys := [.write, .backup], slots := [("existing", .one), ("fragment", .one)]
    build := fun r =>
      .merge (r.word "existing") (r.word? "fragment") (r.has .write) (r.has .backup) },
  { name := "deps", keys := [.root], slots := [("file", .one)]
    build := fun r => .deps (r.word "file") (rootOf r) },
  { name := "test", keys := [.target], slots := [("path", .optional)]
    build := fun r => .test ((r.word? "path").getD ['.']) (r.option? .target) }]

def CommandForm.grammar (f : CommandForm) : Grammar where
  program := program ++ ' ' :: f.name.toList
  options := optionNames (commonKeys ++ f.keys)
  slots := f.slots.map fun s => ⟨s.1.toList, s.2⟩

def noSuchCommand (word : Text) : Text :=
  "argument command: invalid choice: ".toList ++ Text.quoted word ++ " (choose from ".toList ++
    List.intercalate ", ".toList (commandForms.map fun f => Text.quoted f.name.toList) ++ [')']

/-- Reads a command line. -/
def Arguments.ofLine (line : List Text) : Except Stop Arguments := do
  let outer ← mainGrammar.read line
  let word := outer.word "command"
  match commandForms.find? fun f => f.name.toList = word with
  | none => mainGrammar.fault (noSuchCommand word)
  | some form =>
    let inner ← form.grammar.read ((outer.words "command").drop 1)
    match outer.extras ++ inner.extras with
    | [] =>
      return {
        verbose := outer.has .verbose || inner.has .verbose
        logFile := ((inner.option? .logFile).or (outer.option? .logFile)).join
        command := form.build inner }
    | extras =>
      mainGrammar.fault ("unrecognized arguments: ".toList ++ List.intercalate [' '] extras)

end TestWeaver.CommandLine
