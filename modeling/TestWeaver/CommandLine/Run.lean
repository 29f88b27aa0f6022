import TestWeaver.CommandLine.Arguments
import TestWeaver.Config.Reading
import TestWeaver.Dependency.Lookup
import TestWeaver.Json.Printing
import TestWeaver.Layout.Workspace
import TestWeaver.Merge.Fragment
import TestWeaver.Session.Storage
import TestWeaver.Session.TestRun
import TestWeaver.Source.Listing

/-!
Carrying out commands.

A command answers with an exit code. A missing file and the failures that the library foresees
are reported in one message with exit code 1; other failures are left to the caller.
-/

namespace TestWeaver.CommandLine

open Session (Launcher)

/-- A path as seen from the current directory, or as it stands if it leads elsewhere. -/
def shownPath (t : FileTree) (p : Path) : Except Failure Text :=
  match t.realPath p with
  | .ok q => .ok (((Layout.below? t.here.toPath q).getD p).toText)
  | .error e => if e.isNaming then .ok p.toText else .error (.files e)

def showPath (p : Path) : Act Text := Act.look fun t => shownPath t p

def readSource (file : Text) : Act Text := Act.look fun t => t.readText (Path.ofText file)

/-- The path that a word names. -/
def pathOf : Option Text → Act Path
  | some s => pure (Path.ofText s)
  | none => throw .notPath

def logFileOf (a : Arguments) : Option Path :=
  match a.logFile with
  | some (c :: s) => some (Path.ofText (c :: s))
  | _ => none

/-- Reads the configuration of a workspace. Its log file counts if the command line names
none. -/
def readConfig (load : Config.Loader) (a : Arguments) (root : Path) : Act Config := do
  let c ← Act.look fun t => Config.read load t root
  if (logFileOf a).isNone && c.logPath.isSome then Act.configureLog a.verbose c.logPath
  return c

def scan (file : Text) : Act Nat := do
  match Source.unit? (← readSource file) with
  | none =>
    Act.complain ("No class declaration found in ".toList ++ file ++ ['\n'])
    return 1
  | some u =>
    Act.print u.toJson.pretty
    return 0

def resolve (load : Config.Loader) (a : Arguments) (file : Text) (root override : Option Text) :
    Act Nat := do
  let root ← pathOf root
  let c ← readConfig load a root
  let resolver : Layout.Resolver := { suffix := c.sections.naming.suffix }
  let p ← Act.look fun t => resolver.testFile t (Path.ofText file) root override
  Act.print (← showPath p)
  return 0

/-- Logs that a merge finds no closing row. -/
def logMerge (existing fragment : Text) : Act Unit := do
  if (Merge.closingRow? (Merge.mergeImports existing fragment)).isNone then
    Act.log .debug "merge.fragments" "No class closing brace found; appending fragment".toList

def merge (existing : Text) (fragment : Option Text) (write backup : Bool) : Act Nat := do
  let old ← readSource existing
  let fragment ← pathOf fragment
  let new ← Act.look fun t => t.readText fragment
  logMerge old new
  let merged := Merge.mergeGenerated old new
  let p := Path.ofText existing
  if !write then
    Act.print merged
  else
    if backup then
      match ← Storage.backup p (← get).clock.moment with
      | none => pure ()
      | some copy => Act.print ("Backup written to ".toList ++ (← showPath copy))
    let _ ← Storage.save p merged
    Act.print ("Merged tests written to ".toList ++ (← showPath p))
  return 0

/-- Logs the targets that have no source. -/
def logUnfound (found : List (Text × Path)) : List Text → Act Unit
  | [] => return
  | t :: ts => do
    if !found.any fun f => f.1 = t then
      Act.log .debug "merge.directives" ("No workspace source found for import ".toList ++ t)
    logUnfound found ts

def printFound : List (Text × Path) → Act Unit
  | [] => return
  | (target, p) :: fs => do
    Act.print (target ++ '\t' :: (← showPath p))
    printFound fs

def deps (load : Config.Loader) (a : Arguments) (file : Text) (root : Option Text) : Act Nat := do
  let root ← pathOf root
  let c ← readConfig load a root
  let targets := Dependency.targets (← readSource file) c.sections.naming.libraries
  let found ← Act.ofFiles (Dependency.lookup (← get).tree root targets)
  logUnfound found targets
  printFound found
  return 0

/-- The name that a target must have. -/
def nameOf : Option (Option Text) → Act (Option Text)
  | some none => throw .notText
  | some (some s) => pure (some s)
  | none => pure none

def test (load : Config.Loader) (launch : Launcher) (a : Arguments) (root : Text)
    (target : Option (Option Text)) : Act Nat := do
  let root := Path.ofText root
  let c ← readConfig load a root
  let target ← nameOf target
  let result ← Session.runTests launch root c.sections.build target
  Act.print result.summary
  if result.passed then
    Act.print "All tests passed!".toList
    return 0
  else
    Act.complain "Some tests failed. Check the results above.\n".toList
    return 1

def runCommand (load : Config.Loader) (launch : Launcher) (a : Arguments) : Act Nat :=
  match a.command with
  | .scan file => scan file
  | .resolve file root override => resolve load a file root override
  | .merge existing fragment write backup => merge existing fragment write backup
  | .deps file root => deps load a file root
  | .test root target => test load launch a root target

/-- The message with which a failure ends a command, if it is one to report. -/
def report? (c : Command) (e : Failure) : Option Text :=
  if e.isMissingFile then some (e.message ++ ['\n'])
  else if e.isExpected then
    some (program ++ ' ' :: c.name ++ " failed: ".toList ++ e.message ++ ['\n'])
  else none

def reporting (c : Command) (e : Failure) : Act Nat := do
  match report? c e with
  | none => throw e
  | some m =>
    Act.complain m
    return 1

def runArguments (load : Config.Loader) (launch : Launcher) (a : Arguments) : Act Nat := do
  Act.configureLog a.verbose (logFileOf a)
  tryCatch (runCommand load launch a) (reporting a.command)

/-- Runs a command line. A faulty one ends with exit code 2. -/
def run (load : Config.Loader) (launch : Launcher) (line : List Text) : Act Nat :=
  match Arguments.ofLine line with
  | .ok a => runArguments load launch a
  | .error (.help p) => do
    Act.print (Stop.help p).message
    return 0
  | .error s => do
    Act.complain (s.message ++ ['\n'])
    return 2

end TestWeaver.CommandLine
