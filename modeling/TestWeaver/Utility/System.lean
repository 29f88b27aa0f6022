import TestWeaver.Time.Moment
import TestWeaver.Utility.Content

/-!
Programs that tell of the system and the user, and that let time pass.
-/

namespace TestWeaver.Utility

open Decimal (Real)
open FileTree (Node)
open Machine (Proc)

def placeText (place : FileTree.Place) : Text :=
  Raw.ofText ('/' :: List.intercalate ['/'] place)

def pwd : Program := fun args => do
  let (os, names) ← parse [⟨'L', "logical", false, false⟩, ⟨'P', "physical", false, false⟩] args
  if names ≠ [] then complain "ignoring non-option arguments".toList
  let t ← look
  let shownPath := ((← get).env.lookup "PWD".toList).filter fun p =>
    p.head? = some '/' && placeOf? t p = some t.here
  emitLine (if has os 'L' then shownPath.getD (placeText t.here) else placeText t.here)

def variableLine (v : Text × Text) : Text := v.1 ++ '=' :: v.2

def printenv : Program := fun args => do
  let (os, names) ← parse [⟨'0', "null", false, false⟩] args true 2
  let tail : Text := if has os '0' then [Char.ofNat 0] else ['\n']
  let env := (← get).env
  if names = [] then env.forM fun v => emit (variableLine v ++ tail)
  for n in names do
    match env.lookup n with
    | some t => emit (t ++ tail)
    | none => setStatus 1

def id : Program := fun args => do
  let (os, names) ← parse [⟨'u', "user", false, false⟩, ⟨'g', "group", false, false⟩,
    ⟨'G', "groups", false, false⟩, ⟨'n', "name", false, false⟩, ⟨'r', "real", false, false⟩,
    ⟨'a', "", false, false⟩, ⟨'z', "zero", false, false⟩] args
  let one := ['u', 'g', 'G'].filter (has os)
  for n in names do
    if n ≠ "root".toList then grumble (curly n ++ ": no such user".toList)
  if names.all (· = "root".toList) then
    if 2 ≤ one.length then
      die "cannot print \"only\" of more than one choice".toList
    else if one = [] then
      if has os 'n' || has os 'r' then
        die "cannot print only names or real IDs in default format".toList
      else emitLine "uid=0(root) gid=0(root) groups=0(root)".toList
    else emitLine (if has os 'n' then "root".toList else ['0'])

def whoami : Program := fun args => do
  let (_, names) ← parse [] args
  if let n :: _ := names then extraOperand n
  emitLine "root".toList

/-- What is known of the system, by letters in the order in which it is shown. -/
def systemFacts : List (Char × String) :=
  [('s', "Linux"), ('n', "localhost"), ('r', "6.1.0"), ('v', "#1 SMP"), ('m', "x86_64"),
    ('o', "GNU/Linux")]

def uname : Program := fun args => do
  let (os, names) ← parse [⟨'a', "all", false, false⟩, ⟨'s', "kernel-name", false, false⟩,
    ⟨'n', "nodename", false, false⟩, ⟨'r', "kernel-release", false, false⟩,
    ⟨'v', "kernel-version", false, false⟩, ⟨'m', "machine", false, false⟩,
    ⟨'p', "processor", false, false⟩, ⟨'i', "hardware-platform", false, false⟩,
    ⟨'o', "operating-system", false, false⟩] args
  if let n :: _ := names then extraOperand n
  let facts := systemFacts.filter fun f => has os 'a' || has os f.1 || (os = [] && f.1 = 's')
  let more := ['p', 'i'].filter fun c => has os c && !has os 'a'
  emitLine (List.intercalate [' '] (facts.map (·.2.toList) ++ more.map fun _ => "unknown".toList))

def arch : Program := fun args => do
  let (_, names) ← parse [] args
  if let n :: _ := names then extraOperand n
  emitLine "x86_64".toList

def groups : Program := fun args => do
  let (_, names) ← parse [] args
  for n in names do
    if n = "root".toList then emitLine "root : root".toList
    else grumble (curly n ++ ": no such user".toList)
  if names = [] then emitLine "root".toList

def logname : Program := fun args => do
  let (_, names) ← parse [] args
  if let n :: _ := names then extraOperand n
  die "no login name".toList

/-- Tells who is logged in, which is nobody. -/
def users : Program := fun args => do
  let (_, names) ← parse [] args
  if let n :: _ := names.drop 1 then extraOperand n

def nproc : Program := fun args => do
  let (_, names) ← parse [⟨'a', "all", false, false⟩, ⟨'i', "ignore", true, false⟩] args
  if let n :: _ := names then extraOperand n
  emitLine ['1']

def tty : Program := fun args => do
  let (os, _) ← parse [⟨'s', "silent", false, false⟩, ⟨'s', "quiet", false, false⟩] args false 2
  if !has os 's' then emitLine "not a tty".toList
  setStatus 1

def which : Program := fun args => do
  let all := args.head? = some "-a".toList
  let names := if all then args.drop 1 else args
  if names = [] then setStatus 1
  let dirs := Text.splitAt ':' (((← get).env.lookup "PATH".toList).getD [])
  let t ← look
  for n in names do
    let paths := if n.contains '/' then [n] else dirs.map fun d => (if d = [] then ['.'] else d) ++ '/' :: n
    let found := paths.filter fun p =>
      match Pattern.nodeAt? t true p with
      | some (.file _ x) => x
      | _ => false
    if found = [] then setStatus 1
    else (if all then found else found.take 1).forM emitLine

/-! ### time -/

/-- A span of time with a letter for its unit, in microseconds. -/
def span? (t : Text) : Option Nat :=
  let units : List (Text × Nat) := [([], 1), (['s'], 1), (['m'], 60), (['h'], 3600), (['d'], 86400)]
  match Real.read? 53 t with
  | some (.ratio negative num den, rest) =>
    if negative && num ≠ 0 then none
    else (units.lookup rest).map fun u => (num * u * 1000000 + den - 1) / den
  | some (.infinite false, rest) => (units.lookup rest).map fun _ => century
  | _ => none

def sleep : Program := fun args => do
  let (_, spans) ← parse [] args
  if spans = [] then missingOperand
  let times ← spans.mapM fun t => do
    if (span? t).isNone then
      complain ("invalid time interval ".toList ++ curly t)
    return span? t
  if times.any Option.isNone then
    tryHelp
    exit 1
  call (.sleep (min century ((times.filterMap fun t => t).foldl (· + ·) 0)))

def weekdays : List String :=
  ["Sunday", "Monday", "Tuesday", "Wednesday", "Thursday", "Friday", "Saturday"]

def months : List String :=
  ["January", "February", "March", "April", "May", "June", "July", "August", "September",
    "October", "November", "December"]

/-- A moment as the letters of a format ask for its parts. -/
def momentPart (m : Moment) (seconds : Int) (c : Char) : Text :=
  let two := fun (n : Int) => Moment.padded 2 n.toNat
  let spaced := fun (n : Int) => padLeft 2 (Raw.ofInt n)
  let days := seconds / 86400
  let weekday := ((days + 4) % 7).toNat
  let dayName := (weekdays.getD weekday "").toList
  let monthName := (months.getD (m.month.toNat - 1) "").toList
  let hour12 := if m.hour % 12 = 0 then 12 else m.hour % 12
  let clock := two m.hour ++ ':' :: two m.minute ++ ':' :: two m.second
  let dayOfYear := ((List.range (m.month.toNat - 1)).map fun (i : Nat) =>
    Moment.daysIn m.year ((i : Int) + 1)).foldl (· + ·) m.day
  match c with
  | 'Y' => Raw.ofInt m.year
  | 'C' => two (m.year / 100)
  | 'y' => two (m.year % 100)
  | 'm' => two m.month
  | 'd' => two m.day
  | 'e' => spaced m.day
  | 'H' => two m.hour
  | 'k' => spaced m.hour
  | 'I' => two hour12
  | 'l' => spaced hour12
  | 'M' => two m.minute
  | 'S' => two m.second
  | 'N' => Moment.padded 9 (m.microsecond.toNat * 1000)
  | 's' => Raw.ofInt seconds
  | 'j' => Moment.padded 3 dayOfYear.toNat
  | 'a' => dayName.take 3
  | 'A' => dayName
  | 'b' | 'h' => monthName.take 3
  | 'B' => monthName
  | 'p' => (if m.hour < 12 then "AM" else "PM").toList
  | 'P' => (if m.hour < 12 then "am" else "pm").toList
  | 'u' => Raw.ofNat (if weekday = 0 then 7 else weekday)
  | 'w' => Raw.ofNat weekday
  | 'Z' => "UTC".toList
  | 'z' => "+0000".toList
  | 'n' => ['\n']
  | 't' => ['\t']
  | '%' => ['%']
  | 'T' | 'X' => clock
  | 'R' => two m.hour ++ ':' :: two m.minute
  | 'r' => two hour12 ++ ':' :: two m.minute ++ ':' :: two m.second ++
      (if m.hour < 12 then " AM" else " PM").toList
  | 'D' | 'x' => two m.month ++ '/' :: two m.day ++ '/' :: two (m.year % 100)
  | 'F' => Raw.ofInt m.year ++ '-' :: two m.month ++ '-' :: two m.day
  | 'c' => dayName.take 3 ++ ' ' :: monthName.take 3 ++ ' ' :: spaced m.day ++ ' ' :: clock ++
      ' ' :: Raw.ofInt m.year
  | c => ['%', c]

def momentText (m : Moment) (seconds : Int) : Text → Text
  | [] => []
  | '%' :: '-' :: c :: r =>
    let t := (momentPart m seconds c).dropWhile fun c => c = '0' || c = ' '
    (if t = [] then ['0'] else t) ++ momentText m seconds r
  | '%' :: c :: r => momentPart m seconds c ++ momentText m seconds r
  | c :: r => c :: momentText m seconds r

/-- Seconds since the start of 1970 on a day. -/
def secondsOf (year month day : Int) : Int :=
  let y := if month ≤ 2 then year - 1 else year
  let yearOfGroup := y % 400
  let dayOfYear := (153 * (if 2 < month then month - 3 else month + 9) + 2) / 5 + day - 1
  let dayOfGroup := yearOfGroup * 365 + yearOfGroup / 4 - yearOfGroup / 100 + dayOfYear
  (y / 400 * 146097 + dayOfGroup - 719468) * 86400

/-- A moment that is written as seconds, or as a day and perhaps a time. -/
def momentOf? (t : Text) : Option Int :=
  match t with
  | '@' :: r => integer? r
  | _ =>
    let (day, rest) : Text × Text := (t.take 10, t.drop 10)
    match Text.splitAt '-' day with
    | [y, m, d] =>
      if isDigits y && isDigits m && isDigits d && 1 ≤ number m && number m ≤ 12 &&
          1 ≤ number d && number d ≤ Moment.daysIn (number y) (number m) then
        let start := secondsOf (number y) (number m) (number d)
        let clock := rest.dropWhile fun c => c = ' ' || c = 'T'
        let clock := (clock.reverse.dropWhile fun c => c = 'Z' || c = ' ').reverse
        let clock := if Text.endsWith clock " UTC".toList then clock.take (clock.length - 4) else clock
        if clock = [] then some start
        else
          match Text.splitAt ':' clock with
          | h :: m :: s =>
            let ns := h :: m :: s
            if ns.all isDigits && s.length ≤ 1 && number h < 24 && number m < 60 then
              let later : Nat := number h * 3600 + number m * 60 + (s.map number).foldl (· + ·) 0
              some (start + (later : Int))
            else none
          | _ => none
      else none
    | _ => none

/-- When the machine was started. -/
def epoch : Nat := 1767225600

def date : Program := fun args => do
  let (os, names) ← parse [⟨'u', "utc", false, false⟩, ⟨'u', "universal", false, false⟩,
    ⟨'d', "date", true, false⟩, ⟨'I', "iso-8601", false, true⟩, ⟨'R', "rfc-email", false, false⟩]
    args
  let now : Nat ← (call .clock : Act Nat)
  let (seconds, micro) : Int × Int ←
    match valueOf os 'd' with
    | none => pure ((epoch : Int) + (now / 1000000 : Nat), ((now % 1000000 : Nat) : Int))
    | some t =>
      if t = "now".toList || t = [] then
        pure ((epoch : Int) + (now / 1000000 : Nat), ((now % 1000000 : Nat) : Int))
      else
        match momentOf? t with
        | some n => pure (n, 0)
        | none => die ("invalid date ".toList ++ curly t)
  let m := Moment.ofSeconds seconds micro
  match names with
  | ('+' :: f) :: more =>
    if let x :: _ := more then extraOperand x
    emitLine (momentText m seconds f)
  | x :: _ => die ("invalid date ".toList ++ curly x)
  | [] =>
    let format : String :=
      if has os 'R' then "%a, %d %b %Y %H:%M:%S %z"
      else if has os 'I' then "%Y-%m-%d"
      else "%a %b %e %H:%M:%S %Z %Y"
    emitLine (momentText m seconds format.toList)

/-! ### signals -/

/-- The signal of a number or a name. -/
def signal? (t : Text) : Option Nat :=
  if isDigits t then (if number t < Machine.Signal.count then some (number t) else none)
  else
    let t := t.map Char.toUpper
    Machine.Signal.ofName? (if Text.startsWith t "SIG".toList then t.drop 3 else t)

def kill : Program := fun args => do
  let send := fun (signal : Nat) (ids : List Text) => (do
    if ids = [] then misuse "no process ID specified".toList
    for t in ids do
      match integer? t with
      | some n =>
        if !(← (call (.kill n signal) : Act Bool)) then
          grumble ("(".toList ++ t ++ "): No such process".toList)
      | none => grumble ("failed to parse argument: ".toList ++ inQuotes t) : Act Unit)
  match args with
  | ['-', 'l'] :: _ =>
    emitLine (List.intercalate [' '] ((List.range 31).map fun n => Machine.Signal.name (n + 1)))
  | ['-', 's'] :: s :: ids =>
    match signal? s with
    | some n => send n ids
    | none => die ("unknown signal name ".toList ++ s)
  | ('-' :: s) :: ids =>
    match signal? s with
    | some n => send n ids
    | none => die ("invalid argument ".toList ++ s)
  | ids => send 15 ids

end TestWeaver.Utility
