import TestWeaver.Machine.Work

/-!
Signals by their numbers and names.
-/

namespace TestWeaver.Machine.Signal

/-- Names and descriptions in the order of the numbers, from 1 on. -/
def table : List (String × String) := [
  ("HUP", "Hangup"), ("INT", "Interrupt"), ("QUIT", "Quit"), ("ILL", "Illegal instruction"),
  ("TRAP", "Trace/breakpoint trap"), ("ABRT", "Aborted"), ("BUS", "Bus error"),
  ("FPE", "Floating point exception"), ("KILL", "Killed"), ("USR1", "User defined signal 1"),
  ("SEGV", "Segmentation fault"), ("USR2", "User defined signal 2"), ("PIPE", "Broken pipe"),
  ("ALRM", "Alarm clock"), ("TERM", "Terminated"), ("16", "Stack fault"),
  ("CHLD", "Child exited"), ("CONT", "Continued"), ("STOP", "Stopped (signal)"),
  ("TSTP", "Stopped"), ("TTIN", "Stopped (tty input)"), ("TTOU", "Stopped (tty output)"),
  ("URG", "Urgent I/O condition"), ("XCPU", "CPU time limit exceeded"),
  ("XFSZ", "File size limit exceeded"), ("VTALRM", "Virtual timer expired"),
  ("PROF", "Profiling timer expired"), ("WINCH", "Window changed"), ("IO", "I/O possible"),
  ("PWR", "Power failure"), ("SYS", "Bad system call")]

/-- The number behind the last signal. -/
def count : Nat := 65

def realTime (n : Nat) : Text :=
  if n = 34 then "RTMIN".toList
  else if n = 64 then "RTMAX".toList
  else if n ≤ 49 then "RTMIN+".toList ++ Raw.ofNat (n - 34)
  else "RTMAX-".toList ++ Raw.ofNat (64 - n)

/-- The name of a signal; numbers without one stand for themselves. -/
def name (n : Nat) : Text :=
  if n = 0 then "EXIT".toList
  else
    match table[n - 1]? with
    | some (s, _) => s.toList
    | none => if 34 ≤ n && n ≤ 64 then realTime n else Raw.ofNat n

def description (n : Nat) : Text :=
  match table[n - 1]? with
  | some (_, d) => d.toList
  | none => "Real-time signal ".toList ++ Raw.ofNat (n - 34)

/-- The signal of a name, in letters of any case. -/
def ofName? (s : Text) : Option Nat :=
  (List.range count).find? fun n => name n = s.map Char.toUpper

end TestWeaver.Machine.Signal
