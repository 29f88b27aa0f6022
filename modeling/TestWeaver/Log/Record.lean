import TestWeaver.Decimal.Notation

/-!
Log records, and the two forms in which one is written.
-/

namespace TestWeaver.Log

/-- How grave a record is. -/
structure Level where
  rank : Int
deriving DecidableEq, Repr

namespace Level

instance : LE Level where
  le a b := a.rank ≤ b.rank

instance (a b : Level) : Decidable (a ≤ b) := inferInstanceAs (Decidable (a.rank ≤ b.rank))

/-- The level that lets the loggers above decide. -/
def unset : Level := ⟨0⟩

def debug : Level := ⟨10⟩

def info : Level := ⟨20⟩

def warning : Level := ⟨30⟩

def error : Level := ⟨40⟩

def critical : Level := ⟨50⟩

/-- The levels that have a name of their own. -/
def named : List (Text × Level) :=
  [("NOTSET".toList, unset), ("DEBUG".toList, debug), ("INFO".toList, info),
    ("WARNING".toList, warning), ("ERROR".toList, error), ("CRITICAL".toList, critical)]

def name (l : Level) : Text :=
  match named.find? (·.2 = l) with
  | some (n, _) => n
  | none => "Level ".toList ++ Decimal.integer l.rank

def ofName? (s : Text) : Option Level := (named.find? (·.1 = s)).map (·.2)

end Level

/-- The name of the program, above all loggers. -/
def program : Text := "testgen".toList

/-- The full name of a logger. -/
def loggerName : Option Text → Text
  | some (c :: s) => program ++ '.' :: c :: s
  | _ => program

/-- The logger that carries whole outputs of builds. -/
def buildOutput : Text := loggerName (some "build.output".toList)

structure Record where
  level : Level
  /-- The full name of the logger. -/
  logger : Text
  message : Text
deriving DecidableEq, Repr

namespace Record

/-- A record without a form. -/
def bareLine (r : Record) : Text := r.message ++ ['\n']

def consoleLine (r : Record) : Text :=
  '[' :: program ++ "] ".toList ++ r.level.name ++ ' ' :: r.message ++ ['\n']

def fileLine (time : Text) (r : Record) : Text :=
  time ++ ' ' :: r.level.name ++ ' ' :: r.logger ++ ": ".toList ++ r.message ++ ['\n']

end Record

end TestWeaver.Log
