import TestWeaver.Utility.Places
import TestWeaver.Utility.Starting

/-!
Finding files: an expression is asked about everything below some directories.
-/

namespace TestWeaver.Utility

open FileTree (Cause Node)
open Machine (Ending)

/-- How a number is compared. -/
inductive Measure where
  | more
  | less
  | same
deriving DecidableEq, Repr

def Measure.holds (m : Measure) (n k : Nat) : Bool :=
  match m with
  | more => k < n
  | less => n < k
  | same => n = k

inductive Condition where
  | always (b : Bool)
  | both (a b : Condition)
  | either (a b : Condition)
  | after (a b : Condition)
  | negated (a : Condition)
  | name (fold whole : Bool) (pattern : Text)
  | regex (fold : Bool) (r : Pattern.Regex)
  | kind (letters : Text)
  | empty
  | size (m : Measure) (n unit : Nat)
  | age (m : Measure) (n : Nat)
  | mode (executable : Bool)
  | access (letter : Char)
  | newer (path : Text)
  | linkName (pattern : Text)
  | prune
  | quit
  | delete
  | print (tail : Text)
  | format (f : Text)
  | start (argv : List Text) (many : Bool) (inDir : Bool)
  /-- Starts it only if the reader agrees. -/
  | asking (argv : List Text)

namespace Condition

/-- Whether a condition does something with what is found. -/
def acts : Condition → Bool
  | both a b | either a b | after a b => acts a || acts b
  | negated a => acts a
  | delete | print _ | format _ | start .. | asking _ | quit => true
  | _ => false

def deletes : Condition → Bool
  | both a b | either a b | after a b => deletes a || deletes b
  | negated a => deletes a
  | delete => true
  | _ => false

end Condition

/-- What was found, and how. -/
structure Visit where
  path : Text
  start : Text
  depth : Nat
  node : Node

/-- What asking about a file comes to. -/
structure Verdict where
  holds : Bool := true
  pruned : Bool := false
  quits : Bool := false
  /-- Paths that wait for a program that is given many. -/
  kept : List (List Text × Text) := []

def glyphsOf (t : Text) : List Pattern.Glyph := t.map fun c => { char := c }

def fitsName (pattern t : Text) : Bool := Pattern.Glob.covers { wide := true } (Pattern.Glob.items (glyphsOf pattern)) t

def foldCase (b : Bool) (t : Text) : Text := if b then t.map Char.toLower else t

def kindOf (n : Node) : Char :=
  match n with
  | .file .. => 'f'
  | .dir _ => 'd'
  | .link _ => 'l'

/-- The path seen from where the search began. -/
def belowStart (v : Visit) : Text :=
  let r := v.path.drop v.start.length
  if r.head? = some '/' then r.drop 1 else r

def visitPart (v : Visit) (c : Char) : Text :=
  match c with
  | 'p' => v.path
  | 'f' => lastName v.path
  | 'h' =>
    let d := dirName v.path
    if v.path.contains '/' then d else ['.']
  | 'H' => v.start
  | 'P' => belowStart v
  | 's' => Raw.ofNat (sizeIn v.node)
  | 'y' => [kindOf v.node]
  | 'd' => Raw.ofNat v.depth
  | 'm' => factOf v.path v.node 'a'
  | 'M' => factOf v.path v.node 'A'
  | 'u' | 'g' => "root".toList
  | 'U' | 'G' => ['0']
  | 'l' =>
    match v.node with
    | .link t => Raw.ofText t
    | _ => []
  | 'n' => ['1']
  | '%' => ['%']
  | c => ['%', c]
where
  sizeIn (n : Node) : Nat :=
    match n with
    | .file bs _ => bs.length
    | .dir _ => 4096
    | .link t => t.length

def visitText (v : Visit) : Nat → Text → Text
  | 0, _ => []
  | _ + 1, [] => []
  | n + 1, '%' :: c :: r => visitPart v c ++ visitText v n r
  | n + 1, '\\' :: r =>
    match escape .tool .format r with
    | .text t rest => t ++ visitText v n rest
    | .stop => []
    | .noDigits => '\\' :: visitText v n r
  | n + 1, c :: r => c :: visitText v n r

def isEmptyNode (n : Node) : Bool :=
  match n with
  | .file bs _ => bs.isEmpty
  | .dir .nil => true
  | _ => false

def withPath (argv : List Text) (path : Text) : List Text :=
  argv.map fun a => replaceAll "\x7b\x7d".toList path (a.length + 1) a

/-- Starts a program for what was found. -/
def startFor (start : Starter) (argv : List Text) : Act Bool := do
  flush
  let e ← runOther start (argv.headD []) (argv.drop 1) (← get).env [] fun r => do
    complain (curly (argv.headD []) ++ ": ".toList ++ r.text)
    exit 1
  return e = .exited 0

/-- Asks an expression about a file. -/
def ask (start : Starter) (v : Visit) : Condition → Act Verdict
  | .always b => return { holds := b }
  | .both a b => do
    let x ← ask start v a
    if !x.holds || x.quits then return x
    let y ← ask start v b
    return { y with pruned := x.pruned || y.pruned, kept := x.kept ++ y.kept }
  | .either a b => do
    let x ← ask start v a
    if x.holds || x.quits then return x
    let y ← ask start v b
    return { y with pruned := x.pruned || y.pruned, kept := x.kept ++ y.kept }
  | .after a b => do
    let x ← ask start v a
    if x.quits then return x
    let y ← ask start v b
    return { y with pruned := x.pruned || y.pruned, kept := x.kept ++ y.kept }
  | .negated a => do
    let x ← ask start v a
    return { x with holds := !x.holds }
  | .name fold whole pattern =>
    let t := if whole then v.path else lastName v.path
    return { holds := fitsName (foldCase fold pattern) (foldCase fold t) }
  | .regex fold r =>
    let t := v.path
    return { holds := match r.matchAt { foldCase := fold } t.toArray 0 with
      | some m => m.last = t.length
      | none => false }
  | .kind letters => return { holds := letters.contains (kindOf v.node) }
  | .empty => return { holds := isEmptyNode v.node }
  | .size m n unit =>
    let size := visitPart.sizeIn v.node
    return { holds := m.holds ((size + unit - 1) / unit) n }
  | .age m n => return { holds := m.holds 0 n }
  | .mode executable =>
    return { holds := match v.node with
      | .file _ x => !executable || x
      | _ => true }
  | .access letter => do
    let t ← look
    return { holds := fileIs t letter v.path }
  | .newer _ => return { holds := false }
  | .linkName pattern =>
    return { holds := match v.node with
      | .link t => fitsName pattern (Raw.ofText t)
      | _ => false }
  | .prune => return { pruned := true }
  | .quit => return { quits := true }
  | .delete => do
    if v.path = ['.'] then return {}
    let fail := fun (m : Text) => (do
      flush
      grumble ("cannot delete ".toList ++ curly v.path ++ ": ".toList ++ m)
      return { holds := false } : Act Verdict)
    match locate (← look) false v.path with
    | .ok (place, some (.dir .nil)) =>
      takeAway place
      return {}
    | .ok (_, some (.dir _)) => fail notEmpty
    | .ok (place, some _) =>
      takeAway place
      return {}
    | .ok (_, none) => fail noEntry
    | .error e => fail e
  | .print tail => do
    emit (v.path ++ tail)
    return {}
  | .format f => do
    emit (visitText v (f.length + 1) f)
    return {}
  | .asking argv => do
    flush
    let _ ← putRaw 2 ("< ".toList ++ argv.headD [] ++ " ... ".toList ++ v.path ++ " > ? ".toList)
    let answer : Except Machine.Refusal Text ← call (.readTo 0 '\n')
    let agrees := match answer with
      | .ok t => t.head? = some 'y' || t.head? = some 'Y'
      | .error _ => false
    return { holds := ← if agrees then startFor start (withPath argv v.path) else pure false }
  | .start argv many _ => do
    if many then return { kept := [(argv, v.path)] }
    else return { holds := ← startFor start (withPath argv v.path) }

structure FindOptions where
  least : Nat := 0
  most : Nat := 100000
  last : Bool := false
  follow : Bool := false
  followArgs : Bool := false

/-- Goes through a file and all that is below it. -/
def visit (start : Starter) (o : FindOptions) (c : Condition) (top : Text) :
    Nat → Nat → Text → List (List Text × Text) → Act (Bool × List (List Text × Text))
  | 0, _, _, kept => return (true, kept)
  | n + 1, depth, path, kept => do
    let t ← look
    let follows := o.follow || (o.followArgs && depth = 0)
    let found := (locate t follows path).toOption.bind (·.2)
    match found.or ((locate t false path).toOption.bind (·.2)) with
    | none => return (true, kept)
    | some node =>
      let v : Visit := ⟨path, top, depth, node⟩
      let own : Act Verdict := if o.least ≤ depth then ask start v c else return {}
      let below := fun (kept : List (List Text × Text)) => (do
        match node with
        | .dir es =>
          if o.most ≤ depth then return (true, kept)
          else
            (es.toList.map (·.1)).foldlM (fun (acc : Bool × List (List Text × Text)) name => do
              if !acc.1 then return acc
              visit start o c top n (depth + 1) (inside path (Raw.ofText name)) acc.2) (true, kept)
        | _ => return (true, kept) : Act (Bool × List (List Text × Text)))
      if o.last then
        let (on, kept) ← below kept
        if !on then return (false, kept)
        let r ← own
        return (!r.quits, kept ++ r.kept)
      else
        let r ← own
        if r.quits then return (false, kept ++ r.kept)
        if r.pruned then return (true, kept ++ r.kept)
        below (kept ++ r.kept)

/-! ### reading expressions -/

abbrev Words := List Text

def measure? (t : Text) : Option (Measure × Text) :=
  match t with
  | '+' :: r => some (.more, r)
  | '-' :: r => some (.less, r)
  | [] => none
  | r => some (.same, r)

def sizeUnits : List (Text × Nat) :=
  [(['c'], 1), (['w'], 2), (['b'], 512), ([], 512), (['k'], 1024), (['M'], 1048576),
    (['G'], 1073741824)]

/-- A basic expression in which repetitions need no backslash. -/
def plainRepeats : Text → Text
  | [] => []
  | '\\' :: c :: r => '\\' :: c :: plainRepeats r
  | c :: r => if c = '+' || c = '?' then '\\' :: c :: plainRepeats r else c :: plainRepeats r

/-- What is being read of an expression: the type of regular expressions, and global options. -/
structure Reading where
  extended : Option Bool := none
  options : FindOptions := {}

def missingArg {α : Type} (w : Text) : Act α := die ("missing argument to \x60".toList ++ w ++ ['\''])

def argOf (w : Text) (r : Words) : Act (Text × Words) := do
  match r with
  | a :: r => return (a, r)
  | [] => missingArg w

def numberArg (w a : Text) : Act (Measure × Nat) := do
  match measure? a with
  | some (m, ds) =>
    if isDigits ds then return (m, number ds)
    else die ("invalid argument \x60".toList ++ a ++ "' to \x60".toList ++ w ++ ['\''])
  | none => die ("invalid argument \x60".toList ++ a ++ "' to \x60".toList ++ w ++ ['\''])

def regexOf (s : Reading) (t : Text) : Act Pattern.Regex := do
  let r := match s.extended with
    | some e => Pattern.Regex.ofText e t
    | none => Pattern.Regex.ofText false (plainRepeats t)
  match r with
  | .ok r => return r
  | .error e => die ("failed to compile regular expression '".toList ++ t ++ "': ".toList ++ e.message)

/-- The command of an action, up to its end. -/
def commandOf (w : Text) (r : Words) : Act (List Text × Bool × Words) := do
  let isEnd := fun (i : Nat) (a : Text) =>
    a = [';'] || (a = ['+'] && 0 < i && r[i - 1]? = some "\x7b\x7d".toList)
  match r.zipIdx.find? fun (a, i) => isEnd i a with
  | some (a, i) =>
    if i = 0 then die ("invalid argument \x60;' to \x60".toList ++ w ++ ['\''])
    let argv := r.take i
    return (if a = ['+'] then argv.dropLast else argv, a = ['+'], r.drop (i + 1))
  | none => missingArg w

/-- A test or an action with its arguments. -/
def primaryOf (s : Reading) (w : Text) (r : Words) : Act (Condition × Words × Reading) := do
  let withArg := fun (f : Text → Act Condition) => (do
    let (a, r) ← argOf w r
    return (← f a, r, s) : Act (Condition × Words × Reading))
  let plain := fun (c : Condition) => (return (c, r, s) : Act (Condition × Words × Reading))
  match String.ofList w with
  | "-name" => withArg fun a => return .name false false a
  | "-iname" => withArg fun a => return .name true false a
  | "-path" | "-wholename" => withArg fun a => return .name false true a
  | "-ipath" | "-iwholename" => withArg fun a => return .name true true a
  | "-lname" => withArg fun a => return .linkName a
  | "-regex" => withArg fun a => return .regex false (← regexOf s a)
  | "-iregex" => withArg fun a => return .regex true (← regexOf s a)
  | "-regextype" => do
    let (a, r) ← argOf w r
    let extended := ["posix-extended", "egrep", "posix-egrep", "awk", "gnu-awk", "posix-awk"].any
      fun k => k.toList = a
    return (.always true, r, { s with extended := some extended })
  | "-type" | "-xtype" => withArg fun a => do
    let letters := a.filter (· ≠ ',')
    match letters.find? fun c => !"fdlbcps".toList.contains c with
    | some c => die ("Unknown argument to ".toList ++ w ++ ": ".toList ++ [c])
    | none => return .kind letters
  | "-empty" => plain .empty
  | "-size" => withArg fun a => do
    match measure? a with
    | some (m, t) =>
      let ds := t.takeWhile Char.isDigit
      match sizeUnits.lookup (t.drop ds.length) with
      | some u =>
        if ds = [] then die ("Invalid argument \x60".toList ++ a ++ "' to -size".toList)
        return .size m (number ds) u
      | none => die ("Invalid argument \x60".toList ++ a ++ "' to -size".toList)
    | none => die ("Invalid argument \x60".toList ++ a ++ "' to -size".toList)
  | "-mtime" | "-atime" | "-ctime" | "-mmin" | "-amin" | "-cmin" => withArg fun a => do
    let (m, n) ← numberArg w a
    return .age m n
  | "-links" | "-inum" | "-uid" | "-gid" => withArg fun a => do
    let (m, n) ← numberArg w a
    return .always (m.holds (if w = "-links".toList then 1 else 0) n)
  | "-user" | "-group" => withArg fun a => return .always (a = "root".toList)
  | "-perm" => withArg fun a =>
    return .mode (a.any fun c => c = 'x' || c = '1' || c = '5' || c = '7')
  | "-executable" => plain (.access 'x')
  | "-readable" => plain (.access 'r')
  | "-writable" => plain (.access 'w')
  | "-newer" | "-anewer" | "-cnewer" => withArg fun a => return .newer a
  | "-true" => plain (.always true)
  | "-false" => plain (.always false)
  | "-nouser" | "-nogroup" => plain (.always false)
  | "-prune" => plain .prune
  | "-quit" => plain .quit
  | "-delete" => return (.delete, r, { s with options := { s.options with last := true } })
  | "-print" => plain (.print ['\n'])
  | "-print0" => plain (.print [Char.ofNat 0])
  | "-printf" => withArg fun a => return .format a
  | "-depth" | "-d" => return (.always true, r, { s with options := { s.options with last := true } })
  | "-mount" | "-xdev" | "-noleaf" | "-daystart" | "-warn" | "-nowarn" | "-ignore_readdir_race" =>
    plain (.always true)
  | "-follow" => return (.always true, r, { s with options := { s.options with follow := true } })
  | "-maxdepth" | "-mindepth" => do
    let (a, r) ← argOf w r
    if !isDigits a then
      die ("Expected a positive decimal integer argument to ".toList ++ w ++ ", but got ".toList ++
        curly a)
    let o := s.options
    return (.always true, r, { s with options :=
      if w = "-maxdepth".toList then { o with most := number a } else { o with least := number a } })
  | "-exec" | "-execdir" | "-ok" | "-okdir" => do
    let (argv, many, r) ← commandOf w r
    if w = "-ok".toList || w = "-okdir".toList then return (.asking argv, r, s)
    else return (.start argv many (w = "-execdir".toList), r, s)
  | _ =>
    if w.head? = some '-' then die ("unknown predicate \x60".toList ++ w ++ ['\''])
    else
      complain ("paths must precede expression: \x60".toList ++ w ++ ['\''])
      exit 1

mutual

/-- Expressions one after another, joined by commas. -/
def seriesFrom : Nat → Reading → Words → Act (Condition × Words × Reading)
  | 0, s, r => return (.always true, r, s)
  | n + 1, s, r => do
    let (a, r, s) ← anyFrom n s r
    match r with
    | [','] :: r =>
      let (b, r, s) ← seriesFrom n s r
      return (.after a b, r, s)
    | _ => return (a, r, s)

def anyFrom : Nat → Reading → Words → Act (Condition × Words × Reading)
  | 0, s, r => return (.always true, r, s)
  | n + 1, s, r => do
    let (a, r, s) ← allFrom n s r
    match r with
    | w :: r' =>
      if w = "-o".toList || w = "-or".toList then
        let (b, r, s) ← anyFrom n s r'
        return (.either a b, r, s)
      else return (a, r, s)
    | [] => return (a, r, s)

def allFrom : Nat → Reading → Words → Act (Condition × Words × Reading)
  | 0, s, r => return (.always true, r, s)
  | n + 1, s, r => do
    let (a, r, s) ← oneFrom n s r
    match r with
    | [] => return (a, r, s)
    | w :: r' =>
      if w = "-o".toList || w = "-or".toList || w = [','] || w = [')'] then return (a, r, s)
      else
        let (b, r, s) ← allFrom n s (if w = "-a".toList || w = "-and".toList then r' else r)
        return (.both a b, r, s)

def oneFrom : Nat → Reading → Words → Act (Condition × Words × Reading)
  | 0, s, r => return (.always true, r, s)
  | n + 1, s, r => do
    match r with
    | [] => die "invalid expression; you have used a binary operator '-a' with nothing after it.".toList
    | w :: r =>
      if w = ['!'] || w = "-not".toList then
        if r = [] then die ("expected an expression after '".toList ++ w ++ ['\''])
        let (a, r, s) ← oneFrom n s r
        return (.negated a, r, s)
      else if w = ['('] then
        let (a, r, s) ← seriesFrom n s r
        match r with
        | [')'] :: r => return (a, r, s)
        | _ =>
          die "invalid expression; I was expecting to find a ')' somewhere but did not see one.".toList
      else if w = [')'] then
        die "invalid expression; you have too many ')'".toList
      else primaryOf s w r

end

def findProgram (start : Starter) : Program := fun args => do
  let early := args.takeWhile fun a => a = "-L".toList || a = "-P".toList || a = "-H".toList
  let args := args.drop early.length
  let isStart := fun (a : Text) => a.head? = some '-' && a ≠ ['-'] || a = ['!'] || a = ['('] || a = [')'] || a = [',']
  let tops := args.takeWhile fun a => !isStart a
  let words := args.drop tops.length
  let base : Reading := { options := {
    follow := early.getLast? = some "-L".toList, followArgs := early.getLast? = some "-H".toList } }
  let (c, rest, s) ← if words = [] then pure (Condition.always true, [], base)
    else seriesFrom (4 * words.length + 8) base words
  if rest ≠ [] then die "invalid expression; you have too many ')'".toList
  let c := if c.acts then c else .both c (.print ['\n'])
  let tops := if tops = [] then [['.']] else tops
  let (_, kept) ← tops.foldlM (fun (acc : Bool × List (List Text × Text)) top => do
    if !acc.1 then return acc
    match locate (← look) false top with
    | .ok (_, some _) => visit start s.options c top copyDepth 0 top acc.2
    | .ok (_, none) =>
      flush
      grumble (curly top ++ ": ".toList ++ noEntry)
      return acc
    | .error e =>
      flush
      grumble (curly top ++ ": ".toList ++ e)
      return acc) (true, [])
  let commands := kept.foldl (fun acc (k, _) => if acc.contains k then acc else acc ++ [k]) []
  for k in commands do
    let paths := kept.filterMap fun (l, p) => if l = k then some p else none
    if !(← startFor start (k ++ paths)) then setStatus 1

end TestWeaver.Utility
