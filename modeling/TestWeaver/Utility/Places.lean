import TestWeaver.FileTree.RealPath
import TestWeaver.Utility.Content

/-!
Programs that make, move and remove files, directories and links.
-/

namespace TestWeaver.Utility

open FileTree (Cause Entries Node Place)
open Machine (Proc Refusal)

/-- The place that a path means and what is there. -/
def locate (t : FileTree) (last : Bool) (path : Text) : Except Text (Place × Option Node) :=
  match FileTree.follow t.root t.here last (Raw.toText path) with
  | .ok r => .ok r
  | .error c => .error c.text

def noEntry : Text := Cause.noEntry.text

def notEmpty : Text := "Directory not empty".toList

def putAt (place : Place) (node : Node) : Act Unit := do
  let _ ← change fun t => .ok { t with root := Node.put node place t.root }

def takeAway (place : Place) : Act Unit := do
  let _ ← change fun t =>
    .ok (match t.root.get? place.dropLast with
      | some (.dir es) =>
        { t with root := Node.put (.dir (es.erase (place.getLast?.getD []))) place.dropLast t.root }
      | _ => t)

/-- A path with another name behind it. -/
def inside (dir name : Text) : Text :=
  if Text.endsWith dir ['/'] then dir ++ name else dir ++ '/' :: name

/-- Says what was done, if that is wanted. -/
def tell (os : List Given) (m : Text) : Act Unit := do
  if has os 'v' then emitLine m

def isDotName (name : Text) : Bool := name = ['.'] || name = ['.', '.']

/-- Complains behind what is on its way out. -/
def protest (m : Text) : Act Unit := do
  flush
  grumble m

/-! ### directories -/

/-- Makes a directory; the answer says why not. -/
def makeDir (path : Text) : Act (Option Text) := do
  match locate (← look) false (if Text.endsWith path ['/'] then dropSlashes path else path) with
  | .error e => return some e
  | .ok (_, some _) => return some Cause.exists.text
  | .ok (place, none) =>
    putAt place (.dir .nil)
    return none

/-- The paths of the directories on the way to a path, itself at the end. -/
def wayTo (path : Text) : List Text :=
  let names := (Text.splitAt '/' path).filter (· ≠ [])
  let root : Text := if path.head? = some '/' then ['/'] else []
  (names.zipIdx.map fun (_, i) => root ++ List.intercalate ['/'] (names.take (i + 1)))

def mkdir : Program := fun args => do
  let (os, names) ← parse [⟨'p', "parents", false, false⟩, ⟨'m', "mode", true, false⟩,
    ⟨'v', "verbose", false, false⟩] args
  if names = [] then missingOperand
  let made := fun (p : Text) => tell os ("created directory ".toList ++ inQuotes p)
  let told := fun (p : Text) => do
    if has os 'v' then emit ((← get).self ++ ": ".toList)
    made p
  for n in names do
    let fail := fun (p m : Text) =>
      protest ("cannot create directory ".toList ++ curly p ++ ": ".toList ++ m)
    if has os 'p' then
      let _ ← (wayTo n).foldlM (fun (on : Bool) p => do
        if !on then return false
        match locate (← look) true p with
        | .ok (_, some (.dir _)) => return true
        | .ok (_, some _) =>
          fail p (if p.length < (dropSlashes n).length then Cause.notDirectory.text
            else Cause.exists.text)
          return false
        | .error e =>
          fail p e
          return false
        | .ok (_, none) =>
          match ← makeDir p with
          | some e =>
            fail p e
            return false
          | none =>
            told p
            return true) true
    else
      match ← makeDir n with
      | some e => fail n e
      | none => told n

def rmdir : Program := fun args => do
  let (os, names) ← parse [⟨'p', "parents", false, false⟩, ⟨'v', "verbose", false, false⟩,
    ⟨'i', "ignore-fail-on-non-empty", false, false⟩] args
  if names = [] then missingOperand
  let one := fun (p : Text) => (do
    if has os 'v' then
      emit ((← get).self ++ ": ".toList)
      tell os ("removing directory, ".toList ++ inQuotes p)
    let fail := fun (m : Text) => (do
      protest ("failed to remove ".toList ++ inQuotes p ++ ": ".toList ++ m)
      return false : Act Bool)
    match locate (← look) false p with
    | .error e => fail e
    | .ok (_, none) => fail noEntry
    | .ok (place, some (.dir .nil)) =>
      takeAway place
      return true
    | .ok (_, some (.dir _)) => if has os 'i' then return false else fail notEmpty
    | .ok _ => fail Cause.notDirectory.text : Act Bool)
  for n in names do
    if has os 'p' then
      let _ ← (wayTo n).reverse.foldlM (fun (on : Bool) p => if on then one p else pure false) true
    else
      let _ ← one n

/-! ### rm -/

mutual

/-- Says of everything below a node, itself last, that it was removed. -/
def removedNode (path : Text) : Node → List Text
  | .dir es => removedEntries path es ++ ["removed directory ".toList ++ inQuotes path]
  | _ => ["removed ".toList ++ inQuotes path]

def removedEntries (path : Text) : Entries → List Text
  | .nil => []
  | .cons n e rest =>
    removedNode (inside path (Raw.ofText n)) e ++ removedEntries path rest

end

def rm : Program := fun args => do
  let (os, names) ← parse [⟨'d', "dir", false, false⟩, ⟨'f', "force", false, false⟩,
    ⟨'i', "", false, false⟩, ⟨'I', "", false, false⟩, ⟨'r', "recursive", false, false⟩,
    ⟨'R', "", false, false⟩, ⟨'v', "verbose", false, false⟩] args
  let deep := has os 'r' || has os 'R'
  if names = [] && !has os 'f' then missingOperand
  for n in names do
    let fail := fun (m : Text) =>
      protest ("cannot remove ".toList ++ inQuotes n ++ ": ".toList ++ m)
    if deep && isDotName (lastName n) then
      protest ("refusing to remove '.' or '..' directory: skipping ".toList ++ inQuotes n)
    else
      match locate (← look) false n with
      | .error e => if !(has os 'f' && e = noEntry) then fail e
      | .ok (_, none) => if !has os 'f' then fail noEntry
      | .ok ([], _) =>
        protest "it is dangerous to operate recursively on '/'".toList
        complain "use --no-preserve-root to override this failsafe".toList
      | .ok (place, some node) =>
        let agreed : Bool ←
          if !has os 'i' || node.isDir then pure true
          else do
            let sort := match node with
              | .file [] _ => "regular empty file"
              | .link _ => "symbolic link"
              | _ => "regular file"
            flush
            let _ ← putRaw 2 ((← get).self ++ ": remove ".toList ++ sort.toList ++ ' ' :: inQuotes n ++
              "? ".toList)
            match ← (call (.readTo 0 '\n') : Act (Except Refusal Text)) with
            | .ok (c :: _) => pure (c = 'y' || c = 'Y')
            | _ => pure false
        if !agreed then continue
        match node, deep with
        | .dir .nil, false =>
          if has os 'd' then
            takeAway place
            tell os ("removed directory ".toList ++ inQuotes n)
          else fail Cause.isDirectory.text
        | .dir _, false => fail (if has os 'd' then notEmpty else Cause.isDirectory.text)
        | _, _ =>
          takeAway place
          if has os 'v' then (removedNode n node).forM emitLine

def unlink : Program := fun args => do
  let (_, names) ← parse [] args
  match names with
  | [] => missingOperand
  | [n] =>
    let fail := fun (m : Text) => die ("cannot unlink ".toList ++ inQuotes n ++ ": ".toList ++ m)
    match locate (← look) false n with
    | .error e => fail e
    | .ok (_, none) => fail noEntry
    | .ok (_, some (.dir _)) => fail Cause.isDirectory.text
    | .ok (place, _) => takeAway place
  | _ :: x :: _ => extraOperand x

/-! ### copies -/

def missingFile {α : Type} : Act α := misuse "missing file operand".toList

/-- The targets of sources: what each one is to become. -/
def targetsOf (os : List Given) (names : List Text) : Act (List (Text × Text)) := do
  match names with
  | [] => missingFile
  | _ =>
    let t ← look
    let isDir := fun (p : Text) => (Pattern.nodeAt? t true p).any Node.isDir
    match valueOf os 't' with
    | some dir =>
      if !isDir dir then
        die ("target directory ".toList ++ inQuotes dir ++ ": ".toList ++
          (if (Pattern.nodeAt? t true dir).isSome then Cause.notDirectory.text else noEntry))
      return names.map fun n => (n, inside dir (lastName n))
    | none =>
      match names with
      | [n] =>
        misuse ("missing destination file operand after ".toList ++ inQuotes n)
      | _ =>
        let last := names.getLast?.getD []
        let sources := names.dropLast
        if has os 'T' then
          match sources.drop 1 with
          | [] => return sources.map fun n => (n, last)
          | _ => extraOperandPlain (names.getD 2 [])
        else if isDir last then return sources.map fun n => (n, inside last (lastName n))
        else if 2 ≤ sources.length then
          die ("target ".toList ++ inQuotes last ++ ": ".toList ++
            (if (Pattern.nodeAt? t true last).isSome then Cause.notDirectory.text else noEntry))
        else return sources.map fun n => (n, last)
where
  extraOperandPlain {α : Type} (x : Text) : Act α := misuse ("extra operand ".toList ++ inQuotes x)

structure CopyFlags where
  deep : Bool
  links : Bool
  keep : Bool
  force : Bool

def cannotStat (n m : Text) : Act Unit :=
  protest ("cannot stat ".toList ++ inQuotes n ++ ": ".toList ++ m)

def arrow (source target : Text) : Text := inQuotes source ++ " -> ".toList ++ inQuotes target

/-- Whether one place is the other or lies below it. -/
def isBelow (place dir : Place) : Bool := dir.isPrefixOf place

/-- Copies the content of a file. -/
def copyFile (os : List Given) (source target : Text) (executable : Bool) : Act Unit := do
  let isNew := (Pattern.nodeAt? (← look) true target).isNone
  let fail := fun (m : Text) =>
    protest ("cannot create regular file ".toList ++ inQuotes target ++ ": ".toList ++ m)
  if isNew && Text.endsWith target ['/'] then fail Cause.notDirectory.text
  else
    match ← readFile (if source = ['-'] then "./-".toList else source) with
    | .error e =>
      protest ("cannot open ".toList ++ inQuotes source ++ " for reading: ".toList ++ e.text)
    | .ok t =>
      match ← writeFile target .write t with
      | .error e => fail e.text
      | .ok _ =>
        tell os (arrow source target)
        if isNew && executable then
          match locate (← look) true target with
          | .ok (place, some (.file bs _)) => putAt place (.file bs true)
          | _ => return

/-- Copies what is at a path. -/
def copy (os : List Given) (f : CopyFlags) : Nat → Bool → Text → Text → Act Unit
  | 0, _, _, _ => return
  | n + 1, top, source, target => do
    let t ← look
    match locate t (!(f.links || (f.deep && !top) || f.deep)) source with
    | .error e => cannotStat source e
    | .ok (_, none) => cannotStat source noEntry
    | .ok (from_, some node) =>
      let there := locate t true target
      match node with
      | .dir es =>
        if !f.deep then
          protest ("-r not specified; omitting directory ".toList ++ inQuotes source)
        else
          let go : Act Unit := do
            let names := es.toList.map (·.1)
            for name in names do
              let name := Raw.ofText name
              copy os f n false (inside source name) (inside target name)
          let itself := protest ("cannot copy a directory, ".toList ++ inQuotes source ++
            ", into itself, ".toList ++ inQuotes target)
          match there with
          | .ok (to_, some (.dir _)) => if isBelow to_ from_ then itself else go
          | .ok (_, some _) =>
            protest ("cannot overwrite non-directory ".toList ++ inQuotes target ++
              " with directory ".toList ++ inQuotes source)
          | .ok (to_, none) =>
            if isBelow to_ from_ then itself
            else
              match ← makeDir target with
              | some e =>
                protest ("cannot create directory ".toList ++ inQuotes target ++ ": ".toList ++ e)
              | none =>
                tell os (arrow source target)
                go
          | .error e =>
            protest ("cannot create directory ".toList ++ inQuotes target ++ ": ".toList ++ e)
      | .link text =>
        match locate t false target with
        | .ok (to_, old) =>
          if old.any Node.isDir then
            protest ("cannot overwrite directory ".toList ++ inQuotes target ++
              " with non-directory".toList)
          else if to_ = from_ then
            protest (inQuotes source ++ " and ".toList ++ inQuotes target ++
              " are the same file".toList)
          else if f.keep && old.isSome then return
          else
            putAt to_ (.link text)
            tell os (arrow source target)
        | .error e =>
          protest ("cannot create symbolic link ".toList ++ inQuotes target ++ ": ".toList ++ e)
      | .file _ x =>
        match there with
        | .ok (_, some (.dir _)) =>
          protest ("cannot overwrite directory ".toList ++ inQuotes target ++
            " with non-directory".toList)
        | .ok (to_, some _) =>
          if to_ = from_ then
            protest (inQuotes source ++ " and ".toList ++ inQuotes target ++
              " are the same file".toList)
          else if !f.keep then copyFile os source target x
        | _ => copyFile os source target x

/-- How deep directories are copied. -/
def copyDepth : Nat := 1000

def copyOptions : List Known := [⟨'a', "archive", false, false⟩, ⟨'d', "", false, false⟩,
  ⟨'f', "force", false, false⟩, ⟨'H', "", false, false⟩, ⟨'i', "interactive", false, false⟩,
  ⟨'l', "link", false, false⟩, ⟨'L', "dereference", false, false⟩,
  ⟨'n', "no-clobber", false, false⟩, ⟨'P', "no-dereference", false, false⟩,
  ⟨'p', "", false, false⟩, ⟨'p', "preserve", true, true⟩, ⟨'r', "recursive", false, false⟩,
  ⟨'R', "", false, false⟩, ⟨'s', "symbolic-link", false, false⟩,
  ⟨'S', "suffix", true, false⟩, ⟨'t', "target-directory", true, false⟩,
  ⟨'T', "no-target-directory", false, false⟩, ⟨'u', "update", true, true⟩,
  ⟨'v', "verbose", false, false⟩, ⟨'x', "one-file-system", false, false⟩]

def cp : Program := fun args => do
  let (os, names) ← parse copyOptions args
  let deep := ['r', 'R', 'a'].any (has os)
  let links := ['P', 'd', 'a'].any (has os)
  let f : CopyFlags := ⟨deep, (links || deep) && !has os 'L', has os 'n', has os 'f'⟩
  for (source, target) in ← targetsOf os names do
    copy os f copyDepth true source target

def install : Program := fun args => do
  let (os, names) ← parse [⟨'d', "directory", false, false⟩, ⟨'m', "mode", true, false⟩,
    ⟨'D', "", false, false⟩, ⟨'t', "target-directory", true, false⟩,
    ⟨'T', "no-target-directory", false, false⟩, ⟨'v', "verbose", false, false⟩] args
  if has os 'd' then
    for n in names do
      for p in wayTo n do
        if (Pattern.nodeAt? (← look) true p).isNone then
          if let some e ← makeDir p then
            protest ("cannot create directory ".toList ++ curly p ++ ": ".toList ++ e)
  else
    for (source, target) in ← targetsOf os names do
      if has os 'D' then
        for p in wayTo (dirName target) do
          if (Pattern.nodeAt? (← look) true p).isNone then
            let _ ← makeDir p
      let t ← look
      match locate t true source with
      | .ok (_, some (.dir _)) => protest ("omitting directory ".toList ++ inQuotes source)
      | .ok (_, some (.file _ _)) => copyFile os source target true
      | .ok _ => cannotStat source noEntry
      | .error e => cannotStat source e

/-! ### mv -/

def move (os : List Given) (source target : Text) : Act Unit := do
  let t ← look
  let cannot := fun (m : Text) =>
    protest ("cannot move ".toList ++ inQuotes source ++ " to ".toList ++ inQuotes target ++
      ": ".toList ++ m)
  match locate t false source with
  | .error e => cannotStat source e
  | .ok (_, none) => cannotStat source noEntry
  | .ok (from_, some node) =>
    let bare := if node.isDir then dropSlashes target else target
    match locate t false bare with
    | .error e =>
      let isFree := (locate t false (dropSlashes bare)).toOption.any fun r => r.2.isNone
      cannot (if isFree then Cause.notDirectory.text else e)
    | .ok (to_, old) =>
      let done : Act Unit := do
        takeAway from_
        putAt to_ node
        tell os ("renamed ".toList ++ arrow source target)
      if to_ = from_ then
        protest (inQuotes source ++ " and ".toList ++ inQuotes target ++ " are the same file".toList)
      else if node.isDir && isBelow to_ from_ then
        protest ("cannot move ".toList ++ inQuotes source ++ " to a subdirectory of itself, ".toList ++
          inQuotes target)
      else
        match node.isDir, old with
        | true, some (.dir .nil) => done
        | true, some (.dir _) => cannot notEmpty
        | true, some _ =>
          if has os 'n' then return
          protest ("cannot overwrite non-directory ".toList ++ inQuotes target ++
            " with directory ".toList ++ inQuotes source)
        | false, some (.dir _) =>
          protest ("cannot overwrite directory ".toList ++ inQuotes target ++
            " with non-directory".toList)
        | false, some _ => if has os 'n' then return else done
        | isDir, none =>
          if !isDir && to_.getLast? = some [] then cannot Cause.notDirectory.text
          else if !isDir && Text.endsWith target ['/'] then cannot Cause.notDirectory.text
          else done

def mv : Program := fun args => do
  let (os, names) ← parse [⟨'f', "force", false, false⟩, ⟨'i', "interactive", false, false⟩,
    ⟨'n', "no-clobber", false, false⟩, ⟨'t', "target-directory", true, false⟩,
    ⟨'T', "no-target-directory", false, false⟩, ⟨'u', "update", true, true⟩,
    ⟨'v', "verbose", false, false⟩, ⟨'S', "suffix", true, false⟩] args
  for (source, target) in ← targetsOf os names do
    move os source target

/-! ### links -/

/-- Makes a link. A second name for a file is a file of its own with the same content. -/
def makeLink (os : List Given) (source target : Text) : Act Unit := do
  let t ← look
  let symbolic := has os 's'
  let fail := fun (m : Text) =>
    let sort : Text := (if symbolic then "symbolic" else "hard").toList
    let more : Text := if !symbolic && m = noEntry then " => ".toList ++ inQuotes source else []
    protest ("failed to create ".toList ++ sort ++ " link ".toList ++ inQuotes target ++ more ++
      ": ".toList ++ m)
  let node : Except (Act Unit) Node :=
    if symbolic then .ok (.link (Raw.toText source))
    else
      match locate t false source with
      | .error e => .error (protest ("failed to access ".toList ++ inQuotes source ++ ": ".toList ++ e))
      | .ok (_, none) =>
        .error (protest ("failed to access ".toList ++ inQuotes source ++ ": ".toList ++ noEntry))
      | .ok (_, some (.dir _)) =>
        .error (protest (source ++ ": hard link not allowed for directory".toList))
      | .ok (_, some n) => .ok n
  match node with
  | .error say => say
  | .ok node =>
    match locate t false target with
    | .error e => fail e
    | .ok (_, some (.dir _)) =>
      if has os 'f' then protest (target ++ ": cannot overwrite directory".toList)
      else fail Cause.exists.text
    | .ok (place, old) =>
      if old.isSome && !has os 'f' then fail Cause.exists.text
      else
        putAt place node
        tell os (inQuotes target ++ (if symbolic then " -> " else " => ").toList ++ inQuotes source)

def ln : Program := fun args => do
  let (os, names) ← parse [⟨'s', "symbolic", false, false⟩, ⟨'f', "force", false, false⟩,
    ⟨'n', "no-dereference", false, false⟩, ⟨'r', "relative", false, false⟩,
    ⟨'t', "target-directory", true, false⟩, ⟨'T', "no-target-directory", false, false⟩,
    ⟨'v', "verbose", false, false⟩, ⟨'i', "interactive", false, false⟩,
    ⟨'L', "logical", false, false⟩, ⟨'P', "physical", false, false⟩] args
  match names with
  | [n] =>
    if (valueOf os 't').isNone then makeLink os n (inside ['.'] (lastName n))
    else
      for (source, target) in ← targetsOf os names do makeLink os source target
  | [source, target] =>
    let t ← look
    if has os 'n' && (match Pattern.nodeAt? t false target with
        | some (.link _) => true
        | _ => false) then makeLink os source target
    else
      for (source, target) in ← targetsOf os names do makeLink os source target
  | _ =>
    for (source, target) in ← targetsOf os names do makeLink os source target

def link : Program := fun args => do
  let (_, names) ← parse [] args
  match names with
  | [] => missingOperand
  | [n] => missingOperandAfter n
  | [a, b] =>
    let t ← look
    let fail := fun (m : Text) =>
      die ("cannot create link ".toList ++ inQuotes b ++ " to ".toList ++ inQuotes a ++ ": ".toList ++ m)
    match locate t false a, locate t false b with
    | .error e, _ => fail e
    | .ok (_, none), _ => fail noEntry
    | _, .error e => fail e
    | _, .ok (_, some _) => fail Cause.exists.text
    | .ok (_, some node), .ok (place, none) => putAt place node
  | _ :: _ :: x :: _ => extraOperand x

/-- The place with all its links followed, as a path; `must` says how much of it has to be there:
nothing, all but the last name, or all. -/
def canonical? (t : FileTree) (must : Nat) (path : Text) : Except Text Text :=
  if path = [] then .error noEntry
  else if must = 0 then
    match t.realPlace (Path.ofText (Raw.toText path)) with
    | .error _ => .error noEntry
    | .ok place => .ok (placeText place)
  else
    match locate t true path with
    | .error e => .error e
    | .ok (place, some _) => .ok (placeText (place.filter (· ≠ [])))
    | .ok (place, none) =>
      if must = 2 then .error noEntry else .ok (placeText (place.filter (· ≠ [])))
where
  placeText (place : Place) : Text := Raw.ofText ('/' :: List.intercalate ['/'] place)

def readlink : Program := fun args => do
  let (os, names) ← parse [⟨'f', "canonicalize", false, false⟩,
    ⟨'e', "canonicalize-existing", false, false⟩, ⟨'m', "canonicalize-missing", false, false⟩,
    ⟨'n', "no-newline", false, false⟩, ⟨'q', "quiet", false, false⟩, ⟨'s', "silent", false, false⟩,
    ⟨'v', "verbose", false, false⟩, ⟨'z', "zero", false, false⟩] args
  if names = [] then missingOperand
  let tail : Text := if has os 'n' && names.length = 1 then []
    else if has os 'z' then [Char.ofNat 0] else ['\n']
  let t ← look
  for n in names do
    let r : Except Text Text :=
      if has os 'm' then canonical? t 0 n
      else if has os 'e' then canonical? t 2 n
      else if has os 'f' then canonical? t 1 n
      else
        match locate t false n with
        | .ok (_, some (.link s)) => .ok (Raw.ofText s)
        | .ok (_, none) => .error noEntry
        | .ok _ => .error "Invalid argument".toList
        | .error e => .error e
    match r with
    | .ok s => emit (s ++ tail)
    | .error e =>
      if has os 'v' then protest (shown n ++ ": ".toList ++ e) else setStatus 1

/-- How one path is reached from another. -/
def relativeTo (start path : Text) : Text :=
  let a := (Text.splitAt '/' start).filter (· ≠ [])
  let b := (Text.splitAt '/' path).filter (· ≠ [])
  let common := ((a.zip b).takeWhile fun (x, y) => x = y).length
  let names := List.replicate (a.length - common) ['.', '.'] ++ b.drop common
  if names = [] then ['.'] else List.intercalate ['/'] names

def realpath : Program := fun args => do
  let (os, names) ← parse [⟨'e', "canonicalize-existing", false, false⟩,
    ⟨'m', "canonicalize-missing", false, false⟩, ⟨'s', "no-symlinks", false, false⟩,
    ⟨'s', "strip", false, false⟩, ⟨'q', "quiet", false, false⟩, ⟨'z', "zero", false, false⟩,
    ⟨'L', "logical", false, false⟩, ⟨'P', "physical", false, false⟩,
    ⟨'1', "relative-to", true, false⟩, ⟨'2', "relative-base", true, false⟩] args
  if names = [] then missingOperand
  let t ← look
  let one := fun (n : Text) =>
    if has os 's' then
      .ok (Raw.ofText ('/' :: List.intercalate ['/'] (FileTree.placeOf t.here (Path.ofText (Raw.toText n)))))
    else canonical? t (if has os 'm' then 0 else if has os 'e' then 2 else 1) n
  for n in names do
    match one n with
    | .ok p =>
      let p := match valueOf os '1' with
        | some d => relativeTo ((one d).toOption.getD d) p
        | none => p
      emit (p ++ if has os 'z' then [Char.ofNat 0] else ['\n'])
    | .error e => if has os 'q' then setStatus 1 else protest (shown n ++ ": ".toList ++ e)

/-! ### files and what is said of them -/

def touch : Program := fun args => do
  let (os, names) ← parse [⟨'a', "", false, false⟩, ⟨'c', "no-create", false, false⟩,
    ⟨'d', "date", true, false⟩, ⟨'f', "", false, false⟩, ⟨'h', "no-dereference", false, false⟩,
    ⟨'m', "", false, false⟩, ⟨'r', "reference", true, false⟩, ⟨'t', "", true, false⟩] args
  if names = [] then missingFile
  for n in names do
    if n ≠ ['-'] then
      match locate (← look) true n with
      | .ok (_, some _) => pure ()
      | _ =>
        let isFree := (locate (← look) true (dropSlashes n)).toOption.any fun r => r.2.isNone
        if Text.endsWith n ['/'] && isFree then
          if !has os 'c' then
            protest ("setting times of ".toList ++ inQuotes n ++ ": ".toList ++ noEntry)
        else if !has os 'c' then
          match ← writeFile n .append [] with
          | .ok _ => pure ()
          | .error (.files .isDirectory) =>
            protest ("setting times of ".toList ++ inQuotes n ++ ": ".toList ++ noEntry)
          | .error e => protest ("cannot touch ".toList ++ inQuotes n ++ ": ".toList ++ e.text)

/-- What a change of the mode of a file does to its being executable; nothing if it is no change
of a mode. -/
def modeChange? (t : Text) : Option (Bool → Bool) :=
  if isDigits t then
    if t.all (fun c => c < '8') && t.length ≤ 5 then
      some fun _ => (Nat.toDigits 8 (Decimal.Real.natIn 8 t)).reverse.take 3 |>.any fun c =>
        c = '1' || c = '3' || c = '5' || c = '7'
    else none
  else
    let clause? := fun (c : Text) =>
      let who := c.takeWhile fun d => "ugoa".toList.contains d
      let rest := c.drop who.length
      let own := who = [] || who.any fun d => d = 'u' || d = 'a'
      match rest with
      | [] => none
      | _ =>
        if !rest.all fun d => "+-=rwxXstugo".toList.contains d then none
        else if !(rest.head?.any fun d => "+-=".toList.contains d) then none
        else
          some (rest.foldl (fun (s : Char × (Bool → Bool)) d =>
            if "+-=".toList.contains d then
              (d, if d = '=' && own then fun _ => false else s.2)
            else if d = 'x' then
              (s.1, if s.1 ≠ '-' then fun _ => true else if own then fun _ => false else s.2)
            else s) ('+', fun b => b)).2
    (Text.splitAt ',' t).foldl (fun acc c => do
      let f ← acc
      let g ← clause? c
      some fun b => g (f b)) (some fun b => b)

mutual

def changeModes (f : Bool → Bool) : Node → Node
  | .file bs x => .file bs (f x)
  | .dir es => .dir (changeEntryModes f es)
  | .link t => .link t

def changeEntryModes (f : Bool → Bool) : Entries → Entries
  | .nil => .nil
  | .cons n e rest => .cons n (changeModes f e) (changeEntryModes f rest)

end

def chmod : Program := fun args => do
  let isMode := fun (a : Text) =>
    match a with
    | '-' :: c :: _ => "rwxXst".toList.contains c
    | _ => false
  let early := args.takeWhile fun a => a.head? = some '-' && !isMode a && a ≠ ['-', '-']
  let late := args.drop early.length
  let late := if late.head? = some "--".toList then late.drop 1 else late
  let (os, _) ← parse [⟨'R', "recursive", false, false⟩, ⟨'v', "verbose", false, false⟩,
    ⟨'c', "changes", false, false⟩, ⟨'f', "silent", false, false⟩, ⟨'f', "quiet", false, false⟩,
    ⟨'r', "reference", true, false⟩] early
  match late with
  | [] => missingOperand
  | [m] => missingOperandAfter m
  | m :: names =>
    match modeChange? m with
    | none => misuse ("invalid mode: ".toList ++ curly m)
    | some f =>
      for n in names do
        let missing := fun (e : Text) =>
          protest ("cannot access ".toList ++ inQuotes n ++ ": ".toList ++ e)
        match locate (← look) true n with
        | .error e => missing e
        | .ok (_, none) => missing noEntry
        | .ok (place, some node) =>
          match node with
          | .file bs x => putAt place (.file bs (f x))
          | node => if has os 'R' then putAt place (changeModes f node)

def tempLetters : Text := "abcdefghijklmnopqrstuvwxyzABCDEFGHIJKLMNOPQRSTUVWXYZ0123456789".toList

/-- Letters that look as if they had come by chance. -/
def chance : Nat → Nat → Text
  | 0, _ => []
  | n + 1, seed =>
    let seed := (seed * 6364136223846793005 + 1442695040888963407) % 18446744073709551616
    tempLetters.getD (seed / 4294967296 % 62) 'x' :: chance n seed

def mktemp : Program := fun args => do
  let (os, names) ← parse [⟨'d', "directory", false, false⟩, ⟨'u', "dry-run", false, false⟩,
    ⟨'q', "quiet", false, false⟩, ⟨'s', "suffix", true, false⟩, ⟨'p', "tmpdir", true, true⟩,
    ⟨'t', "", false, false⟩] args
  let template := names.headD "tmp.XXXXXXXXXX".toList
  let xs := (template.reverse.takeWhile (· = 'X')).length
  if xs < 3 then die ("too few X's in template ".toList ++ curly template)
  let me : Nat ← (call .self : Act Nat)
  let now : Nat ← (call .clock : Act Nat)
  let name := template.take (template.length - xs) ++ chance xs (me * 1000003 + now) ++
    (valueOf os 's').getD []
  let env := (← get).env
  let dir := (valueOf os 'p').filter (· ≠ []) |>.getD ((env.lookup "TMPDIR".toList).getD "/tmp".toList)
  let path := if names = [] || has os 'p' || has os 't' then inside dir name else name
  if !has os 'u' then
    let fail := fun (m : Text) => die ("failed to create ".toList ++
      (if has os 'd' then "directory" else "file").toList ++ " via template ".toList ++
      curly (path.take (path.length - xs) ++ List.replicate xs 'X') ++ ": ".toList ++ m)
    if has os 'd' then
      if let some e ← makeDir path then fail e
    else
      if let .error e ← writeFile path .fresh [] then fail e.text
  emitLine path

def truncate : Program := fun args => do
  let (os, names) ← parse [⟨'c', "no-create", false, false⟩, ⟨'o', "io-blocks", false, false⟩,
    ⟨'r', "reference", true, false⟩, ⟨'s', "size", true, false⟩] args
  match valueOf os 's' with
  | none =>
    misuse ("you must specify either ".toList ++ curly "--size".toList ++ " or ".toList ++
      curly "--reference".toList)
  | some t =>
    let (sign, digits) : Option Char × Text :=
      match t with
      | c :: r => if "+-<>/%".toList.contains c then (some c, r) else (none, t)
      | [] => (none, [])
    let some n := count? digits
      | die ("Invalid number: ".toList ++ curly t)
    if names = [] then missingFile
    for name in names do
      let old : Text ←
        match ← readFile name with
        | .ok t => pure t
        | .error _ => pure []
      let size := match sign with
        | some '+' => old.length + n
        | some '-' => old.length - n
        | some '<' => min old.length n
        | some '>' => max old.length n
        | some '/' => if n = 0 then 0 else old.length / n * n
        | some '%' => if n = 0 then 0 else (old.length + n - 1) / n * n
        | _ => n
      let isThere := (Pattern.nodeAt? (← look) true name).isSome
      if isThere || !has os 'c' then
        let new := old.take size ++ List.replicate (size - old.length) (Char.ofNat 0)
        if let .error e ← writeFile name .write new then
          protest ("cannot open ".toList ++ inQuotes name ++ " for writing: ".toList ++ e.text)

/-- What a letter asks about a file. -/
def factOf (name : Text) (node : Node) (c : Char) : Text :=
  let mode := fun (file : Bool → String) (dir link : String) =>
    (match node with
      | .file _ x => file x
      | .dir _ => dir
      | .link _ => link).toList
  match c with
  | 'n' => name
  | 'N' =>
    match node with
    | .link t => inQuotes name ++ " -> ".toList ++ inQuotes (Raw.ofText t)
    | _ => inQuotes name
  | 's' =>
    match node with
    | .file bs _ => Raw.ofNat bs.length
    | .dir _ => "4096".toList
    | .link t => Raw.ofNat (Raw.ofText t).length
  | 'F' =>
    match node with
    | .file [] _ => "regular empty file".toList
    | .file .. => "regular file".toList
    | .dir _ => "directory".toList
    | .link _ => "symbolic link".toList
  | 'a' => mode (fun x => if x then "755" else "644") "755" "777"
  | 'A' => mode (fun x => if x then "-rwxr-xr-x" else "-rw-r--r--") "drwxr-xr-x" "lrwxrwxrwx"
  | 'U' | 'G' => "root".toList
  | 'u' | 'g' => ['0']
  | 'h' =>
    match node with
    | .dir es => Raw.ofNat (2 + (es.toList.filter fun e => e.2.isDir).length)
    | _ => ['1']
  | '%' => ['%']
  | c => if c = 'i' || c = 'b' || c = 'B' then ['1'] else ['?']

def facts (name : Text) (node : Node) : Text → Text
  | [] => []
  | '%' :: c :: r => factOf name node c ++ facts name node r
  | c :: r => c :: facts name node r

def stat : Program := fun args => do
  let (os, names) ← parse [⟨'c', "format", true, false⟩, ⟨'p', "printf", true, false⟩,
    ⟨'L', "dereference", false, false⟩, ⟨'t', "terse", false, false⟩,
    ⟨'f', "file-system", false, false⟩] args
  if names = [] then missingOperand
  for n in names do
    let fail := fun (m : Text) =>
      protest ("cannot statx ".toList ++ inQuotes n ++ ": ".toList ++ m)
    match locate (← look) (has os 'L') n with
    | .error e => fail e
    | .ok (_, none) => fail noEntry
    | .ok (_, some node) =>
      match valueOf os 'p', valueOf os 'c' with
      | some f, _ => emit (facts n node (unescape .tool .format f).1)
      | none, f => emitLine (facts n node (f.getD "  File: %n\n  Size: %s\t%F".toList))

end TestWeaver.Utility
