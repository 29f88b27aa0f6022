import TestWeaver.Shell.Runner
import TestWeaver.Shell.Usage
import TestWeaver.Utility.Condition

/-!
What builtins have in common: options, output, and texts that can be read again.
-/

namespace TestWeaver.Shell

open Machine (Refusal)
open Utility (Flavour)

abbrev Builtin := Runner → Flags → List Text → Sh Unit

/-- Writes to the output and remembers if that fails. -/
def say (t : Text) : Sh Unit := do
  if t ≠ [] then
    match ← (Sh.call (.write 1 t) : Sh (Except Refusal Unit)) with
    | .ok _ => return
    | .error _ => modify fun s => { s with unwritten := true }

def flavour (s : State) : Flavour := if s.bash then .bash else .plain

/-- Runs of characters that are quotes, or are none. -/
def quoteRuns : Text → List (Bool × Text)
  | [] => []
  | c :: s =>
    let q := c = '\''
    match quoteRuns s with
    | (p, t) :: rest => if p = q then (q, c :: t) :: rest else (q, [c]) :: (p, t) :: rest
    | [] => [(q, [c])]

/-- A text in single quotes; quotes in it stand in double quotes. -/
def requoted (t : Text) : Text :=
  match quoteRuns t with
  | [] => "''".toList
  | runs =>
    let front : Text := if runs.head?.any (·.1) then "''".toList else []
    front ++ runs.flatMap fun (q, u) =>
      if q then '"' :: u ++ ['"'] else '\'' :: u ++ ['\'']

/-- What bash shows of a value behind an equals sign. -/
def doubleQuoted (t : Text) : Text :=
  if t.any Utility.isControl then Utility.ansiQuotedText t
  else '"' :: t.flatMap (fun c => if "\"\\$\x60".toList.contains c then ['\\', c] else [c]) ++ ['"']

/-- Says how the builtin that is run is called. -/
def sayUsage : Sh Unit := do put 2 (usageOf ((← get).builtin.getD []))

/-- Refuses the arguments of a builtin of bash. -/
def misuse {α : Type} (message : Text) : Sh α := do
  complain message
  sayUsage
  setStatus 2
  throw .failed

/-- Refuses something that a builtin of bash is given, without ending the shell. -/
def refused {α : Type} (status : Nat) (message : Text) : Sh α := do
  refuse status message
  throw .failed

/-- Refuses arguments that are too many, which ends a shell that nobody talks to. -/
def tooMany {α : Type} : Sh α := do
  refuse 1 "too many arguments".toList
  throw .exited

/-- Does something that may be refused without ending the shell. -/
def excused {α : Type} (p : Sh α) : Sh (Option α) :=
  tryCatch (do return some (← p)) fun
    | .failed => return none
    | e => throw e

/-- Reads options with single letters; a colon in `allowed` says that the letter in front of it
takes a text. -/
def optionsFrom (allowed : Text) : Nat → List Text → Sh (List (Char × Text) × List Text)
  | 0, args => return ([], args)
  | n + 1, args => do
    match args with
    | ['-', '-'] :: rest => return ([], rest)
    | ('-' :: c :: cs) :: rest =>
      match Text.cut? [c] allowed with
      | none =>
        if (← get).bash then misuse ('-' :: c :: ": invalid option".toList)
        else fail ("Illegal option -".toList ++ [c])
      | some (_, more) =>
        if more.head? = some ':' then
          match cs, rest with
          | [], [] =>
            if (← get).bash then misuse ('-' :: c :: ": option requires an argument".toList)
            else fail ("No arg for -".toList ++ c :: " option".toList)
          | [], t :: rest =>
            let (os, rest) ← optionsFrom allowed n rest
            return ((c, t) :: os, rest)
          | t, rest =>
            let (os, rest) ← optionsFrom allowed n rest
            return ((c, t) :: os, rest)
        else
          let next := if cs = [] then rest else ('-' :: cs) :: rest
          let (os, rest) ← optionsFrom allowed n next
          return ((c, []) :: os, rest)
    | _ => return ([], args)

def options (allowed : String) (args : List Text) : Sh (List (Char × Text) × List Text) :=
  optionsFrom allowed.toList (args.foldl (fun n a => n + a.length + 1) 1) args

def hasOption (c : Char) (os : List (Char × Text)) : Bool := os.any (·.1 = c)

/-- A whole number, which an argument must be. -/
def natural (t : Text) : Sh Nat := do
  if t ≠ [] && t.all Char.isDigit then return Arithmetic.valueIn 10 t
  else fail ("Illegal number: ".toList ++ t)

def badName {α : Type} (t : Text) : Sh α := do
  if (← get).bash then fail ('\x60' :: t ++ "': not a valid identifier".toList)
  else fail (t ++ ": bad variable name".toList)

def sortedNames (xs : List (Text × Variable)) : List (Text × Variable) :=
  xs.mergeSort fun a b => !(b.1 < a.1)

end TestWeaver.Shell
