import TestWeaver.Shell.State

/-!
What a shell tells the programs that it starts: its exported variables, in an order that their
names fix.
-/

namespace TestWeaver.Shell

/-- The place of a name among those of a plain shell. -/
def plainPlace (name : Text) : Nat :=
  (name.foldl (fun n c => n + c.toNat) (16 * (name.headD '\x00').toNat)) % 39

/-- A number of 32 bits that is spread over all names. -/
def spread (name : Text) : Nat :=
  name.foldl (fun n c => (n * 16777619 % 4294967296).xor c.toNat) 2166136261

/-- Puts what has the smaller place first; what is equal keeps its order. -/
def inPlaces {α : Type} (place : Text → Nat) (xs : List (Text × α)) : List (Text × α) :=
  xs.mergeSort fun a b => place a.1 ≤ place b.1

/-- The newest names are first in their place. -/
def newestFirst {α : Type} (places : Nat) (xs : List (Text × α)) : List (Text × α) :=
  inPlaces (fun n => spread n % places) xs.reverse

/-- Names that are meant for one command or one function come before all others. -/
def scopesFirst {α : Type} (scopes : List (List Text)) (xs : List (Text × α)) : List (Text × α) :=
  match scopes with
  | [] => newestFirst 1024 xs
  | scope :: rest =>
    let (own, others) := xs.partition fun x => scope.contains x.1
    newestFirst 4 own ++ scopesFirst rest others

namespace State

/-- The variables that programs are told. -/
def exported (s : State) : List (Text × Text) :=
  s.vars.filterMap fun (n, v) =>
    if v.exported then v.value.bind fun
      | .text t => some (n, t)
      | _ => none
    else none

/-- What a program is told that is found at a path. -/
def environment (s : State) (path : Text) : List (Text × Text) :=
  if s.bash then
    let scopes := s.given ++ s.locals.map fun l => l.map (·.1)
    scopesFirst scopes (s.exported.filter fun v => v.1 ≠ ['_']) ++ [(['_'], path)]
  else inPlaces plainPlace s.exported

end State

/-- Counts one shell less around a program that takes the place of this one. -/
def lowerLevel : Sh Unit :=
  modify fun s =>
    if s.bash then
      match s.var? "SHLVL".toList with
      | some v =>
        let n := ((s.lookup? "SHLVL".toList).map (Arithmetic.valueIn 10)).getD 0
        s.putVariable "SHLVL".toList { v with value := some (.text (Raw.ofNat (n - 1))) }
      | none => s
    else s

end TestWeaver.Shell
