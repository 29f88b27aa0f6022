import TestWeaver.Failure
import TestWeaver.Log.Sinks
import TestWeaver.Time.Moment

/-!
Running with files, a log and two streams of text. What was done stays done when a later step
fails.

The output is written in an encoding that may have no octets for a character; the errors are written
in one that has some for each.
-/

namespace TestWeaver

/-- The time, once as a moment and once as the log writes it. -/
structure Clock where
  moment : Moment
  logTime : Text

/-- `unwritten` tells why a line cannot be written to the output, if it cannot. -/
structure Session where
  tree : FileTree
  clock : Clock
  sinks : Log.Sinks := {}
  output : Text := []
  errors : Text := []
  unwritten : Text → Option Text := fun _ => none

abbrev Act := ExceptT Failure (StateM Session)

namespace Act

def runOn {α : Type} (a : Act α) (s : Session) : Except Failure α × Session :=
  StateT.run (ExceptT.run a) s

def ofExcept {α : Type} : Except Failure α → Act α
  | .ok a => pure a
  | .error e => throw e

def ofFiles {α : Type} : FileTree.Outcome α → Act α
  | .ok a => pure a
  | .error e => throw (.files e)

/-- Runs what only looks at the files. -/
def look {α : Type} (f : FileTree → Except Failure α) : Act α := do ofExcept (f (← get).tree)

/-- Runs what changes the files. -/
def change (f : FileTree → FileTree.Outcome FileTree) : Act Unit := do
  let t ← ofFiles (f (← get).tree)
  modify fun s => { s with tree := t }

/-- Writes a line to the output, or nothing of it. -/
def print (line : Text) : Act Unit := do
  match (← get).unwritten line with
  | some m => throw (.unencodable m)
  | none => modify fun s => { s with output := s.output ++ line ++ ['\n'] }

/-- Writes to the errors. -/
def complain (text : Text) : Act Unit := modify fun s => { s with errors := s.errors ++ text }

end Act

namespace Session

/-- Writes one line to a sink. A file that cannot be written to gets nothing. -/
def deliver (s : Session) : Log.Sink × Text → Session
  | (.console, line) => { s with errors := s.errors ++ line }
  | (.file p, line) =>
    match s.tree.appendOctets p (Utf8.encode line) with
    | .ok t => { s with tree := t }
    | .error _ => s

def log (s : Session) (r : Log.Record) : Session :=
  let s := { s with sinks := s.sinks.ask r }
  (s.sinks.lines s.clock.logTime r).foldl deliver s

end Session

namespace Act

/-- Logs a message on a logger. -/
def log (level : Log.Level) (logger : String) (message : Text) : Act Unit :=
  modify fun s => s.log ⟨level, Log.loggerName (some logger.toList), message⟩

/-- Configures the log. The file is opened at once, below directories that are made if they are
missing; if it cannot be opened, the console alone stays. -/
def configureLog (verbose : Bool) (file : Option Path) : Act Unit := do
  modify fun s => { s with sinks := s.sinks.toConsole verbose }
  match file with
  | none => return
  | some p =>
    change fun t => t.makeDirs p.parent
    let p := (← get).tree.absolute p
    change fun t => t.appendOctets p []
    modify fun s => { s with sinks := s.sinks.addHandler (.file p) }

end Act

end TestWeaver
