import TestWeaver.Log.Record
import TestWeaver.Path.Basic

/-!
Where log records go.

Loggers have dotted names, and what is logged on one is left to the loggers above it. The program's
own logger is the one that has handlers: one for the console, with a threshold, which leaves whole
outputs of builds out, and at most one for a file, which gets every record. Configuring the log
again replaces them. Records that come to no handler at all go to the console bare, if they are
warnings or worse.

A logger is there from the time when it is first asked for. The loggers above are found by cutting
the name before its dots, the last one first; where no logger has the name in front of a dot, a dot
right before that one is passed over. So `a` is above `a.b` and `a...b`, but it is above `a..b` only
if there is a logger `a.` in between.
-/

namespace TestWeaver.Log

inductive Sink where
  | console
  | file (path : Path)
deriving DecidableEq, Repr

/-! ### handlers -/

/-- What writes records to a sink. -/
structure Handler where
  sink : Sink
  threshold : Level
  /-- Loggers whose names start like this are left out. -/
  barred : Option Text := none
deriving DecidableEq, Repr

namespace Handler

def console (verbose : Bool) : Handler where
  sink := .console
  threshold := if verbose then .debug else .info
  barred := some buildOutput

def file (p : Path) : Handler := { sink := .file p, threshold := .debug }

def takes (h : Handler) (r : Record) : Bool :=
  h.threshold ≤ r.level && !h.barred.any (Text.startsWith r.logger)

def line (time : Text) (h : Handler) (r : Record) : Sink × Text :=
  match h.sink with
  | .console => (.console, r.consoleLine)
  | .file p => (.file p, r.fileLine time)

end Handler

/-! ### loggers -/

/-- Those of the known loggers that are above one, the nearest first, from its name read
backwards. -/
def above (known : List Text) : List Char → List Text
  | [] => []
  | '.' :: c :: s =>
    if (c :: s).reverse ∈ known then (c :: s).reverse :: above known (c :: s) else above known s
  | _ :: s => above known s

/-- The loggers there are, with the level and the handlers of the program's own. -/
structure Sinks where
  threshold : Level := .unset
  handlers : List Handler := []
  loggers : List Text := []
  /-- Which levels loggers let through, as far as it has been found out. -/
  admitted : List ((Text × Level) × Bool) := []
deriving DecidableEq, Repr

namespace Sinks

/-- How many handlers there are. -/
def count (s : Sinks) : Nat := s.handlers.length

/-- Asks for a logger. -/
def get (s : Sinks) (logger : Text) : Sinks :=
  if logger ∈ s.loggers then s else { s with loggers := s.loggers ++ [logger] }

/-- Sets the level of the program's logger. What has been found out of levels is forgotten. -/
def setThreshold (s : Sinks) (l : Level) : Sinks := { s with threshold := l, admitted := [] }

def addHandler (s : Sinks) (h : Handler) : Sinks := { s with handlers := s.handlers ++ [h] }

def removeHandler (s : Sinks) (h : Handler) : Sinks := { s with handlers := s.handlers.erase h }

/-- The sinks with the console alone. -/
def toConsole (s : Sinks) (verbose : Bool) : Sinks :=
  let s := (s.get program).setThreshold .debug
  (s.handlers.foldl removeHandler s).addHandler (.console verbose)

/-- Whether what is logged on a logger comes to the program's own. -/
def reaches (s : Sinks) (logger : Text) : Bool :=
  (logger :: above s.loggers logger.reverse).contains program

/-- The level from which on a logger lets records through. Above all loggers there is one that asks
for warnings. -/
def thresholdOf (s : Sinks) (logger : Text) : Level :=
  if s.reaches logger && s.threshold ≠ .unset then s.threshold else .warning

/-- Whether a logger lets a level through. The first answer stays. -/
def admits (s : Sinks) (logger : Text) (l : Level) : Bool :=
  (s.admitted.lookup (logger, l)).getD (s.thresholdOf logger ≤ l)

/-- The sinks when a record is logged. -/
def ask (s : Sinks) (r : Record) : Sinks :=
  let s := s.get r.logger
  { s with admitted := ((r.logger, r.level), s.admits r.logger r.level) :: s.admitted }

/-- The handlers that records of a logger come to. -/
def handlersOf (s : Sinks) (logger : Text) : List Handler :=
  if s.reaches logger then s.handlers else []

/-- The lines that a record is written as. -/
def lines (time : Text) (s : Sinks) (r : Record) : List (Sink × Text) :=
  if !s.admits r.logger r.level then []
  else
    match s.handlersOf r.logger with
    | [] => if .warning ≤ r.level then [(.console, r.bareLine)] else []
    | hs => (hs.filter (·.takes r)).map (·.line time r)

variable (s : Sinks) (logger : Text) (r : Record)

@[simp] theorem handlers_get : (s.get logger).handlers = s.handlers := by
  unfold get
  split <;> rfl

@[simp] theorem threshold_get : (s.get logger).threshold = s.threshold := by
  unfold get
  split <;> rfl

@[simp] theorem admitted_get : (s.get logger).admitted = s.admitted := by
  unfold get
  split <;> rfl

theorem mem_loggers_get {l : Text} : l ∈ (s.get logger).loggers ↔ l ∈ s.loggers ∨ l = logger := by
  unfold get
  split
  · next h => exact ⟨.inl, fun hl => hl.elim id fun heq => heq ▸ h⟩
  · simp

@[simp] theorem handlers_ask : (s.ask r).handlers = s.handlers := handlers_get s r.logger

theorem foldl_removeHandler (hs : List Handler) :
    hs.foldl removeHandler s = { s with handlers := hs.foldl List.erase s.handlers } := by
  induction hs generalizing s with
  | nil => rfl
  | cons h hs ih => exact ih (s.removeHandler h)

theorem foldl_erase_self (hs : List Handler) : hs.foldl List.erase hs = [] := by
  induction hs with
  | nil => rfl
  | cons h hs ih => rwa [List.foldl_cons, List.erase_cons_head]

/-- No handler is left of those that there were. -/
theorem toConsole_eq (verbose : Bool) :
    s.toConsole verbose =
      { threshold := .debug, handlers := [.console verbose], loggers := (s.get program).loggers,
        admitted := [] } := by
  simp only [toConsole, foldl_removeHandler, foldl_erase_self, setThreshold, addHandler,
    List.nil_append]

/-- A line is one of a handler, or bare. -/
theorem sink_of_mem_lines {time : Text} {line : Sink × Text} (h : line ∈ lines time s r) :
    line.1 = .console ∨ ∃ k ∈ s.handlers, line.1 = k.sink := by
  unfold lines at h
  split at h
  · cases h
  split at h
  · split at h
    · rw [List.mem_singleton] at h
      exact .inl (congrArg Prod.fst h)
    · cases h
  · obtain ⟨k, hk, rfl⟩ := List.mem_map.mp h
    refine .inr ⟨k, ?_, ?_⟩
    · have hof := (List.mem_filter.mp hk).1
      unfold handlersOf at hof
      split at hof
      · exact hof
      · cases hof
    · unfold Handler.line
      split <;> next h => exact h.symm

end Sinks

end TestWeaver.Log
