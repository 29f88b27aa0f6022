import TestWeaver.Shell.Output

/-!
What a name stands for as a command.
-/

namespace TestWeaver.Shell

open FileTree (Node)
open Machine (Proc)

/-- Builtins that come before functions, and of which a fault ends the shell. -/
def specialBuiltins : List String :=
  [".", ":", "break", "continue", "eval", "exec", "exit", "export", "local", "readonly", "return",
    "set", "shift", "times", "trap", "unset"]

def plainBuiltins : List String :=
  ["[", "alias", "bg", "cd", "chdir", "command", "echo", "false", "fg", "getopts", "hash", "jobs",
    "kill", "printf", "pwd", "read", "test", "true", "type", "ulimit", "umask", "unalias", "wait"]

def bashBuiltins : List String :=
  ["bind", "builtin", "caller", "compgen", "complete", "compopt", "declare", "dirs", "disown",
    "enable", "fc", "help", "history", "let", "logout", "mapfile", "popd", "pushd", "readarray",
    "shopt", "source", "suspend", "typeset"]

def isSpecialBuiltin (s : State) (name : Text) : Bool :=
  !s.bash && specialBuiltins.any fun b => b.toList = name

def isBuiltin (s : State) (name : Text) : Bool :=
  (specialBuiltins ++ plainBuiltins ++ if s.bash then bashBuiltins else []).any fun b =>
    b.toList = name && !(s.bash && b = "chdir")

def isKeyword (s : State) (name : Text) : Bool :=
  (keywords ++ if s.bash then "]]" :: "select" :: "time" :: "coproc" :: bashKeywords else []).any
    fun k => k.toList = name

/-! ### looking for programs -/

def pathDirs (s : State) (path : Option Text) : List Text :=
  Text.splitAt ':' (path.getD (s.lookup "PATH".toList))

/-- The file of a name in a directory; the empty directory is the current one. -/
def fileIn (dir name : Text) : Text := if dir = [] then name else dir ++ '/' :: name

def isFileAt (t : FileTree) (path : Text) : Bool := (Pattern.nodeAt? t true path).any Node.isFile

def isProgramAt (t : FileTree) (path : Text) : Bool :=
  match Pattern.nodeAt? t true path with
  | some (.file _ x) => x
  | _ => false

/-- Where a name is found: the first file, in bash the first that may be run. -/
def whereIs (s : State) (t : FileTree) (path : Option Text) (name : Text) : Option Text :=
  if name.contains '/' then
    if (Pattern.nodeAt? t true name).isSome then some name else none
  else
    let found := (pathDirs s path).map fun d => fileIn d name
    if s.bash then (found.find? (isProgramAt t)).or (found.find? (isFileAt t))
    else found.find? (isFileAt t)

/-- What a name stands for. -/
inductive Meaning where
  | keyword
  | other (text : Text)
  | function (body : Command)
  | special
  | builtin
  | file (path : Text) (hashed : Bool)
  | nothing

def meaning (s : State) (t : FileTree) (name : Text) : Meaning :=
  if isKeyword s name then .keyword
  else
    match s.aliases.lookup name with
    | some text => .other text
    | none =>
      if isSpecialBuiltin s name then .special
      else
        match s.functions.lookup name with
        | some body => .function body
        | none =>
          if isBuiltin s name then .builtin
          else
            match s.hashed.lookup name, whereIs s t none name with
            | some p, _ => .file p true
            | none, some p => .file p false
            | none, none => .nothing

/-- Says what a name stands for, in a sentence; nothing if it stands for nothing. -/
def sentence (s : State) (name : Text) : Meaning → Option Text
  | .keyword => some (name ++ " is a shell keyword".toList)
  | .other text =>
    some (name ++ (if s.bash then " is aliased to \x60".toList ++ text ++ ['\'']
      else " is an alias for ".toList ++ text))
  | .function _ => some (name ++ (if s.bash then " is a function" else " is a shell function").toList)
  | .special => some (name ++ " is a special shell builtin".toList)
  | .builtin => some (name ++ " is a shell builtin".toList)
  | .file p hashed =>
    some (name ++ (if hashed then
        (if s.bash then " is hashed (".toList ++ p ++ [')'] else " is a tracked alias for ".toList ++ p)
      else " is ".toList ++ p))
  | .nothing => none

/-- A name by which a command could be run. -/
def invocation (s : State) (name : Text) : Meaning → Option Text
  | .other text =>
    some ("alias ".toList ++ name ++ '=' :: if s.bash then bashQuoted text else requoted text)
  | .file p _ => some p
  | .nothing => none
  | _ => some name

def kindWord : Meaning → Option String
  | .keyword => some "keyword"
  | .other _ => some "alias"
  | .function _ => some "function"
  | .special | .builtin => some "builtin"
  | .file .. => some "file"
  | .nothing => none

/-- All that a name stands for in bash, the first of it first. -/
def meanings (s : State) (t : FileTree) (name : Text) : List Meaning :=
  let keyword : List Meaning := if isKeyword s name then [.keyword] else []
  let other := (s.aliases.lookup name).toList.map .other
  let function := (s.functions.lookup name).toList.map .function
  let builtin : List Meaning := if isBuiltin s name then [.builtin] else []
  let files := if name.contains '/' then (whereIs s t none name).toList
    else ((pathDirs s none).map fun d => fileIn d name).filter (isProgramAt t)
  keyword ++ (if s.hasSetting "expand_aliases" then other else []) ++ function ++ builtin ++
    files.map fun p => .file p false

def Meaning.isFile : Meaning → Bool
  | .file .. => true
  | _ => false

def typeOne (os : List (Char × Text)) (name : Text) : Sh Unit := do
  let s ← get
  let t : FileTree ← Sh.call .look
  let all := if s.bash then meanings s t name else [meaning s t name]
  let all := if hasOption 'f' os then all.filter fun
      | .function _ => false
      | _ => true
    else all
  let all := if hasOption 'P' os then all.filter Meaning.isFile else all
  let all := if hasOption 'a' os then all else all.take 1
  let all := all.map fun
    | .file p _ => .file p (!hasOption 'a' os && !hasOption 'P' os && (s.hashed.lookup name).isSome)
    | m => m
  if all.isEmpty || (all.all fun m => (sentence s name m).isNone) then
    if hasOption 't' os || hasOption 'p' os || hasOption 'P' os then setStatus 1
    else if s.bash then
      complain (name ++ ": not found".toList)
      setStatus 1
    else
      say (name ++ ": not found\n".toList)
      setStatus 127
  for m in all do
    if hasOption 't' os then
      if let some w := kindWord m then say (w.toList ++ ['\n'])
    else if hasOption 'p' os || hasOption 'P' os then
      if let .file p _ := m then say (p ++ ['\n'])
    else if let some t := sentence s name m then say (t ++ ['\n'])

def typeNames : Builtin := fun _ _ args => do
  setStatus 0
  let (os, names) ← if (← get).bash then options "aftpP" args else pure ([], args)
  for n in names do
    typeOne os n

/-- Says what names stand for: of one name, in bash of all. -/
def tellNames (inWords : Bool) (names : List Text) : Sh Unit := do
  setStatus 0
  let s ← get
  let t : FileTree ← Sh.call .look
  let mut found := false
  for n in if s.bash then names else names.take 1 do
    let m := meaning s t n
    if inWords then
      match sentence s n m with
      | some r =>
        say (r ++ ['\n'])
        found := true
      | none =>
        if s.bash then complain (n ++ ": not found".toList)
        else say (n ++ ": not found\n".toList)
    else
      match invocation s n m with
      | some r =>
        say (r ++ ['\n'])
        found := true
      | none => pure ()
  if !found then setStatus (if s.bash then 1 else 127)

/-- Remembers where a program is; the answer says whether there is one. -/
def remember (n : Text) : Sh Bool := do
  let s ← get
  let t : FileTree ← Sh.call .look
  match whereIs s t none n with
  | some p =>
    modify fun s => { s with hashed := State.setEntry n p s.hashed }
    return true
  | none => return false

def countHit (n : Text) : Sh Unit :=
  modify fun s => { s with hits := State.setEntry n (((s.hits.lookup n).getD 0) + 1) s.hits }

def listHashed (os : List (Char × Text)) : Sh Unit := do
  let s ← get
  if !s.bash then say (s.hashed.flatMap fun (_, p) => p ++ ['\n'])
  else if s.hashed = [] then say "hash: hash table empty\n".toList
  else if hasOption 'l' os then
    say (s.hashed.flatMap fun (n, p) => "builtin hash -p ".toList ++ p ++ ' ' :: n ++ ['\n'])
  else
    say ("hits\tcommand\n".toList ++ s.hashed.flatMap fun (n, p) =>
      let count := Raw.ofNat ((s.hits.lookup n).getD 0)
      List.replicate (4 - count.length) ' ' ++ count ++ '\t' :: p ++ ['\n'])

def hashNames : Builtin := fun _ _ args => do
  let (os, names) ← options (if (← get).bash then "rltdp:" else "rv") args
  setStatus 0
  if hasOption 'r' os then modify fun s => { s with hashed := [], hits := [] }
  else if names = [] then listHashed os
  for n in names do
    let s ← get
    let drop := hasOption 'd' os
    if let some (_, p) := os.find? fun o => o.1 = 'p' then
      modify fun s => { s with hashed := State.setEntry n p s.hashed }
    else if drop || hasOption 't' os then
      match s.hashed.lookup n with
      | none => refuse 1 (n ++ ": not found".toList)
      | some p =>
        if drop then modify fun s => { s with hashed := s.hashed.filter fun h => h.1 ≠ n }
        else say ((if 1 < names.length then n ++ ['\t'] else []) ++ p ++ ['\n'])
    else if !(isBuiltin s n || (s.functions.lookup n).isSome) then
      if !(← remember n) then refuse 1 (n ++ ": not found".toList)

end TestWeaver.Shell
