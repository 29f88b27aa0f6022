import TestWeaver.CommandLine.Run
import TestWeaver.FileTree.Listing
import TestWeaver.Shell.Launch
import TestWeaver.Text.Wide
import TestWeaver.Yaml.Loader

/-!
The program.

The files below the current directory are read, the command line is run on them, and those that
differ afterwards are written. Nothing outside that directory is seen. A build tool runs on the
machine of `Machine`, and settings are read by `Yaml`.
-/

namespace TestWeaver.Main

open FileTree (Entries)

/-- How many directories deep files are read. -/
def depth : Nat := 40

/-- Files with more octets count as empty. -/
def largest : UInt64 := 4000000

/-- The nodes of directory entries. Links are left out. -/
def readEntries : Nat → List IO.FS.DirEntry → IO Entries
  | _, [] => return .nil
  | n, d :: ds => do
    let rest ← readEntries n ds
    let m ← d.path.symlinkMetadata
    match m.type, n with
    | .dir, n + 1 =>
      let es ← readEntries n (← d.path.readDir).toList
      return .cons d.fileName.toList (.dir es) rest
    | .file, _ =>
      let bytes ← if m.byteSize ≤ largest then IO.FS.readBinFile d.path else pure .empty
      return .cons d.fileName.toList (.file bytes.toList true) rest
    | _, _ => return rest
termination_by n ds => (n, ds.length)

/-- The files as they are now. -/
def readTree : IO FileTree := do
  let dir ← IO.currentDir
  let here := (Path.ofText dir.toString.toList).parts
  let es ← readEntries depth (← dir.readDir).toList
  let home := ((← IO.getEnv "HOME").getD "/").toList
  return {
    root := .put (.dir es) here Machine.machine, here := here, home := Path.ofText home
    host := { unnamed := Wide.nameFault? } }

def writeFile (place : FileTree.Place) (octets : Utf8.Octets) : IO Unit := do
  let name := fun (p : FileTree.Place) => String.ofList (Path.toText ⟨.none, p⟩)
  IO.FS.createDirAll (name place.dropLast)
  IO.FS.writeBinFile (name place) ⟨octets.toArray⟩

/-- The time at which a new file is made. -/
def now : IO Moment := do
  let (_, path) ← IO.FS.createTempFile
  let m ← path.metadata
  IO.FS.removeFile path
  return .ofSeconds m.modified.sec (m.modified.nsec.toNat / 1000)

def session : IO Session := do
  let m ← now
  return {
    tree := ← readTree, clock := { moment := m, logTime := m.logText }, unwritten := Wide.fault? }

/-- How long a command may take to end that is asked to, in microseconds. -/
def grace : Nat := 5000000

/-- Runs the program; the answer is its exit code. -/
def run (line : List Text) : IO UInt32 := do
  let s ← session
  let launch := Shell.launch s.tree.here.toPath grace
  let (r, t) := (CommandLine.run Yaml.load launch line).runOn s
  for (place, octets) in s.tree.changes t.tree do
    writeFile place octets
  IO.print (String.ofList t.output)
  IO.eprint (String.ofList t.errors)
  match r with
  | .ok code => return code.toUInt32
  | .error e =>
    IO.eprintln (String.ofList e.message)
    return 1

end TestWeaver.Main

def main (args : List String) : IO UInt32 := TestWeaver.Main.run (args.map String.toList)
