import TestWeaver.Shell.Builtin.Places

/-!
The directories that a shell can go back to. The current one is always the first.
-/

namespace TestWeaver.Shell

def stackDirs : Sh (List Text) := do
  let s ← get
  return s.dir :: s.dirStack

/-- A directory with a tilde for the home directory. -/
def shortDir (s : State) (dir : Text) : Text :=
  match s.lookup? "HOME".toList with
  | some h =>
    if h = [] || h = ['/'] then dir
    else if dir = h then ['~']
    else match Text.after? (h ++ ['/']) dir with
      | some r => '~' :: '/' :: r
      | none => dir
  | none => dir

def showStack : Sh Unit := do
  let s ← get
  say (List.intercalate [' '] ((← stackDirs).map (shortDir s)) ++ ['\n'])

/-- The place that an argument such as `+1` or `-0` means among so many; `none` for one that is
not there. -/
def stackPlace? (count : Nat) (t : Text) : Option (Option Nat) :=
  match t with
  | sign :: ds =>
    if (sign = '+' || sign = '-') && ds ≠ [] && ds.all Char.isDigit then
      let n := Arithmetic.valueIn 10 ds
      if count ≤ n then some none else some (some (if sign = '+' then n else count - 1 - n))
    else none
  | [] => none

def dirsBuiltin : Builtin := fun _ _ args => do
  let all ← stackDirs
  let s ← get
  let letters := (args.filter fun a => a.head? = some '-' && (stackPlace? 0 a).isNone).flatMap (·.drop 1)
  let places := args.filterMap fun a => (stackPlace? all.length a).map (a, ·)
  if let some a := args.find? fun a =>
      (stackPlace? 0 a).isNone && !(a.head? = some '-' && a ≠ ['-'] && (a.drop 1).all "clpv".toList.contains) then
    misuse (a ++ (if a.head? = some '-' || a.head? = some '+' then ": invalid number" else ": invalid option").toList)
  setStatus 0
  let shown := fun d => if letters.contains 'l' then d else shortDir s d
  let row := fun (i : Nat) (d : Text) =>
    (if letters.contains 'v' then
      let n := Raw.ofNat i
      (if n.length < 2 then [' '] else []) ++ n ++ "  ".toList
    else []) ++ shown d ++ ['\n']
  if letters.contains 'c' then set { s with dirStack := [] }
  else
    match places with
    | (a, none) :: _ => refuse 1 (a.drop 1 ++ ": directory stack index out of range".toList)
    | (_, some i) :: _ => say (row i (all.getD i []))
    | [] =>
      if letters.contains 'v' || letters.contains 'p' then
        say (all.zipIdx.flatMap fun (d, i) => row i d)
      else say (List.intercalate [' '] (all.map shown) ++ ['\n'])

/-- Goes to a directory; if that fails, the stack stays. -/
def goTo (r : Runner) (f : Flags) (dir : Text) (stack : List Text) : Sh Unit := do
  changeDir r f ["--".toList, dir]
  modify fun s => { s with dirStack := stack }

def pushDir : Builtin := fun r f args => do
  let stay := args.head? = some "-n".toList
  let args := if stay then args.drop 1 else args
  let args := if args.head? = some "--".toList then args.drop 1 else args
  let all ← stackDirs
  let s ← get
  if 1 < args.length then refused 1 "too many arguments".toList
  setStatus 0
  match args with
  | [] =>
    match s.dirStack with
    | [] => refuse 1 "no other directory".toList
    | d :: rest =>
      goTo r f d (s.dir :: rest)
      showStack
  | a :: _ =>
    match stackPlace? all.length a with
    | some none => refuse 1 (a ++ ": directory stack index out of range".toList)
    | some (some n) =>
      match all.drop n ++ all.take n with
      | d :: rest =>
        goTo r f d rest
        showStack
      | [] => pure ()
    | none =>
      if a.head? = some '-' && a ≠ ['-'] then misuse (a ++ ": invalid number".toList)
      else if stay then
        set { s with dirStack := a :: s.dirStack }
        showStack
      else
        goTo r f a (s.dir :: s.dirStack)
        showStack

def popDir : Builtin := fun r f args => do
  let stay := args.head? = some "-n".toList
  let args := if stay then args.drop 1 else args
  let all ← stackDirs
  let s ← get
  setStatus 0
  let drop : Nat → Sh Unit := fun n => do
    if n = 0 && !stay then
      match s.dirStack with
      | d :: rest => goTo r f d rest
      | [] => pure ()
    else set { s with dirStack := s.dirStack.eraseIdx (n - 1) }
    showStack
  match args with
  | [] => if s.dirStack = [] then refuse 1 "directory stack empty".toList else drop 0
  | a :: _ =>
    match stackPlace? all.length a with
    | some none =>
      refuse 1 (if s.dirStack = [] then "directory stack empty".toList
        else a ++ ": directory stack index out of range".toList)
    | some (some n) => drop n
    | none =>
      misuse (a ++ (if a.head? = some '-' then ": invalid number" else ": invalid argument").toList)

end TestWeaver.Shell
