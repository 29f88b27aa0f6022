import TestWeaver.Config.Basic
import TestWeaver.FileTree.RealPath

/-!
Finding and reading the configuration file of a workspace.

The library that makes values of a text is not part of the program. It is a parameter of all that
reads settings.
-/

namespace TestWeaver

/-- The settings that hold in the workspace at a root. -/
structure Config where
  root : Path
  sections : Config.Sections := {}
deriving DecidableEq, Repr

namespace Config

open Yaml (Value)

/-- Where the log goes, if it goes to a file. -/
def logPath (c : Config) : Option Path :=
  match c.sections.logFile with
  | some (x :: s) => some (c.root / Path.ofText (x :: s))
  | _ => none

/-- The configuration file for a path: in the directory that it names, or beside the file. -/
def locate (t : FileTree) (p : Path) : Except FileTree.Trouble Path := do
  let p ← t.expandHome p
  let file := Path.ofText Failure.configFile
  if ← t.isDir p then t.realPath (p / file)
  else if p.name = Failure.configFile then t.realPath p
  else t.realPath (p.parent / file)

/-- Why no value is made of a text: it is malformed, or an exception of another kind comes out of
the library. -/
inductive Fault where
  | malformed
  | raised (kind message : Text)
deriving DecidableEq, Repr

/-- Settings are at most this many collections deep: the file, a section, a field. -/
def depth : Nat := 3

/-- What a library makes of a text. A value that holds itself is given as far as settings are looked
for in it. -/
abbrev Loader := Text → Except Fault Value

def failureOf (file : Text) : Fault → Failure
  | .malformed => .malformedConfig file
  | .raised kind message => .raised kind message

/-- The entries of a text. What is blank or void has none. -/
def entriesOf (load : Loader) (name s : Text) : Except Failure Entries :=
  if Text.trim s = [] then .ok []
  else
    match load s with
    | .error e => .error (failureOf name e)
    | .ok (.mapping es) => .ok es
    | .ok v => if v.isVoid then .ok [] else .error .configNotMapping

/-- The configuration for a path; without a file all settings have their defaults. -/
def read (load : Loader) (t : FileTree) (p : Path) : Except Failure Config := do
  let file ← (locate t p).mapError .files
  let root ← (t.realPath file.parent).mapError .files
  if !(← (t.exists? file).mapError .files) then return { root := root }
  let es ← entriesOf load file.name (← t.readText file)
  return { root := root, sections := ← Sections.ofEntries es }

end Config

end TestWeaver
