import TestWeaver.Shell.Output

/-!
Builtins about the current directory and about what new files may be used for.
-/

namespace TestWeaver.Shell

open FileTree (Cause Node)
open Machine (Refusal)

/-- A path from the top with double dots taken away, links not looked at. -/
def logicalPath (dir t : Text) : Text :=
  let all := if t.head? = some '/' then t else dir ++ '/' :: t
  let parts := (Text.splitAt '/' all).foldl (fun ps p =>
    if p = [] || p = ['.'] then ps
    else if p = ['.', '.'] then ps.drop 1
    else p :: ps) []
  '/' :: List.intercalate ['/'] parts.reverse

/-- Where a process is, as a text. -/
def placeText (t : FileTree) : Text := Raw.ofText (FileTree.Place.toPath t.here).toText

/-- Enters a directory; the answer says why not. -/
def enter (path : Text) : Sh (Option Cause) := do
  let t : FileTree ← Sh.call .look
  match FileTree.follow t.root t.here true (Raw.toText path) with
  | .error c => return some c
  | .ok (place, some (.dir _)) =>
    let _ ← Sh.call (.change fun t => .ok { t with here := place })
    return none
  | .ok (_, some _) => return some .notDirectory
  | .ok (_, none) => return some .noEntry

/-- Sets where the shell takes itself to be. -/
def setDir (dir : Text) : Sh Unit := do
  let old := (← get).dir
  modify fun s => { s with dir := dir }
  for (n, t) in [("OLDPWD", old), ("PWD", dir)] do
    assign n.toList t
    if !(← get).bash then
      modify fun s => s.putVariable n.toList { (s.var? n.toList).getD {} with exported := true }

/-- The places to try for a directory, with whether the one that is found is shown. -/
def candidates (s : State) (t : Text) : List (Text × Bool) :=
  let isDot := fun (p : Text) => p = ['.'] || p = ['.', '.']
  let plain := t.head? = some '/' || isDot (t.takeWhile (· ≠ '/'))
  if plain then [(t, false)]
  else
    match s.lookup? "CDPATH".toList with
    | none => [(t, false)]
    | some dirs =>
      ((Text.splitAt ':' dirs).map fun d =>
        if d = [] then (t, false) else (d ++ '/' :: t, true)) ++ [(t, false)]

def tryDirs (physical : Bool) : List (Text × Bool) → Sh (Option Cause)
  | [] => return some .noEntry
  | (t, shown) :: rest => do
    let dir := (← get).dir
    let target := if physical then t else logicalPath dir t
    match ← enter target with
    | none =>
      let here : FileTree ← Sh.call .look
      let new := if physical then placeText here else target
      setDir new
      if shown then say (new ++ ['\n'])
      return none
    | some c => if rest = [] then return some c else tryDirs physical rest

def changeDir : Builtin := fun _ _ args => do
  let (os, rest) ← options "LPe@" args
  let s ← get
  if s.bash && 1 < rest.length then refused 1 "too many arguments".toList
  let physical := (os.getLast?.map (·.1)) = some 'P'
  setStatus 0
  let target : Option Text :=
    match rest with
    | [] => s.lookup? "HOME".toList
    | t :: _ => if t = ['-'] then s.lookup? "OLDPWD".toList else some t
  match target with
  | none =>
    if s.bash then
      fail (if rest = [] then "HOME not set".toList else "OLDPWD not set".toList) 1
  | some [] => if s.bash then setDir s.dir else return
  | some t =>
    let back := rest.head? = some ['-']
    match ← tryDirs physical (if back then [(t, true)] else candidates s t) with
    | none => return
    | some c =>
      if s.bash then fail (t ++ ": ".toList ++ c.text) 1
      else fail ("can't cd to ".toList ++ t)

def printDir : Builtin := fun _ _ args => do
  let (os, _) ← options "LP" args
  let t : FileTree ← Sh.call .look
  let physical := (os.getLast?.map (·.1)) = some 'P'
  let dir := (← get).dir
  say ((if physical then placeText t else dir) ++ ['\n'])
  setStatus 0

/-! ### permissions -/

def octal (n width : Nat) : Text :=
  let ds := Nat.toDigits 8 n
  List.replicate (width - ds.length) '0' ++ ds

/-- The letters for three bits. -/
def rightsText (n : Nat) : Text :=
  (if n / 4 % 2 = 1 then ['r'] else []) ++ (if n / 2 % 2 = 1 then ['w'] else []) ++
    if n % 2 = 1 then ['x'] else []

def symbolicMask (mask : Nat) : Text :=
  let allowed := 511 - mask % 512
  "u=".toList ++ rightsText (allowed / 64) ++ ",g=".toList ++ rightsText (allowed / 8 % 8) ++
    ",o=".toList ++ rightsText (allowed % 8)

/-- Rights by letters, for one of three kinds of users. -/
def rightsOf (t : Text) : Option Nat :=
  t.foldl (fun n c => n.bind fun n =>
    match c with
    | 'r' => some (Nat.lor n 4)
    | 'w' => some (Nat.lor n 2)
    | 'x' => some (Nat.lor n 1)
    | 'X' | 's' | 't' => some n
    | _ => none) (some 0)

/-- Changes rights as a text such as `u=rw,g-w` says. -/
def changeRights (rights : Nat) (t : Text) : Option Nat :=
  (Text.splitAt ',' t).foldl (fun n part => n.bind fun n =>
    let who := part.takeWhile fun c => "ugoa".toList.contains c
    let shifts : List Nat :=
      if who = [] || who.contains 'a' then [64, 8, 1]
      else (if who.contains 'u' then [64] else []) ++ (if who.contains 'g' then [8] else []) ++
        if who.contains 'o' then [1] else []
    match part.drop who.length with
    | op :: letters =>
      (rightsOf letters).bind fun r =>
        shifts.foldl (fun n k => n.bind fun n =>
          let old := n / k % 8
          let new : Option Nat :=
            match op with
            | '=' => some r
            | '+' => some (Nat.lor old r)
            | '-' => some (old - Nat.land old r)
            | _ => none
          new.map fun new => n - old * k + new * k) (some n)
    | [] => none) (some rights)

def maskFiles : Builtin := fun _ _ args => do
  let (os, rest) ← options "Sp" args
  let mask := (← get).umask
  setStatus 0
  let bash := (← get).bash
  match rest with
  | [] =>
    let front := if hasOption 'p' os then
        "umask ".toList ++ (if hasOption 'S' os then "-S ".toList else [])
      else []
    say (front ++ (if hasOption 'S' os then symbolicMask mask else octal mask 4) ++ ['\n'])
  | t :: _ =>
    if t.head?.any Char.isDigit then
      if t.all Utility.isOctalDigit then
        modify fun s => { s with umask := octalValue t % 512 }
      else if bash then refused 1 (t ++ ": octal number out of range".toList)
      else fail ("Illegal number: ".toList ++ t)
    else
      match changeRights (511 - mask % 512) t with
      | some r => modify fun s => { s with umask := 511 - r }
      | none =>
        if bash then
          let c := (t.dropWhile fun c => "ugoa".toList.contains c).headD ' '
          refused 1 ('\x60' :: c :: "': invalid symbolic mode operator".toList)
        else fail ("Illegal mode: ".toList ++ t)

end TestWeaver.Shell
