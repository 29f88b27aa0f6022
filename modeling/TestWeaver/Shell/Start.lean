import TestWeaver.Shell.Run

/-!
Starting a shell: where it gets its script from, and what it knows at first.
-/

namespace TestWeaver.Shell

open Machine (Proc Refusal Work)

/-- Where the script comes from. -/
inductive Origin where
  | command
  | input
  | file
deriving DecidableEq, Repr

structure Asked where
  origin : Origin := .file
  rest : List Text := []

def longNames : List String :=
  ["debug", "debugger", "dump-po-strings", "dump-strings", "help", "init-file", "login", "noediting",
    "noprofile", "norc", "posix", "pretty-print", "rcfile", "restricted", "verbose", "version"]

/-- How bash may be called. -/
def usage : String :=
  "Usage:\tbash [GNU long option] [option] ...\n\tbash [GNU long option] [option] script-file ...\n" ++
  "GNU long options:\n" ++ String.join (longNames.map fun n => "\t--" ++ n ++ "\n") ++
  "Shell options:\n\t-ilrsD or -c command or -O shopt_option\t\t(invocation only)\n" ++
  "\t-abefhkmnptuvxBCEHPT or -o option\n"

/-- A complaint before anything is run. -/
def startFault {α : Type} (m : Text) (more : String := "") : Sh α := do
  let s ← get
  put 2 (s.name ++ (if s.bash then ": " else ": 0: ").toList ++ m ++ '\n' :: more.toList)
  setStatus 2
  throw .failed

/-- Reads what comes before the script among the arguments. -/
def asked : Nat → Asked → List Text → Sh Asked
  | 0, a, _ => return a
  | n + 1, a, args => do
    let bash := (← get).bash
    let known := if bash then ('l', "login") :: ('i', "interactive") :: bashSettingLetters
      else ('l', "login") :: settingLetters
    match args with
    | ['-'] :: rest | ['-', '-'] :: rest => return { a with rest := rest }
    | ('-' :: '-' :: name) :: rest =>
      if bash then
        if longNames.any fun l => l.toList = name then
          if name = "version".toList then
            put 1 ("GNU bash, version ".toList ++ bashVersion ++ " (x86_64-pc-linux-gnu)\n".toList)
            setStatus 0
            throw .exited
          else
            let skips := name = "rcfile".toList || name = "init-file".toList
            asked n a (if skips then rest.drop 1 else rest)
        else startFault ("--".toList ++ name ++ ": invalid option".toList) usage
      else startFault "Illegal option --".toList
    | (sign :: c :: cs) :: rest =>
      if sign ≠ '-' && sign ≠ '+' then return { a with rest := args }
      else
        let on := sign = '-'
        let go := fun (a : Asked) (rest : List Text) =>
          asked n a (if cs = [] then rest else (sign :: cs) :: rest)
        if c = 'c' then go { a with origin := .command } rest
        else if c = 's' then
          turnSetting "stdin" true
          go (if a.origin = .command then a else { a with origin := .input }) rest
        else if c = 'o' then
          match rest with
          | [] =>
            listSettings (!on)
            go a []
          | name :: rest =>
            if (if bash then bashSettingNames else settingNames).any fun k => k.toList = name then
              turnSetting (String.ofList name) on
              go a rest
            else if bash then startFault (name ++ ": invalid option name".toList)
            else startFault ("Illegal option -o ".toList ++ name)
        else if c = 'O' && bash then
          for name in rest.take 1 do
            if extraNames.any fun k => k.toList = name then turnSetting (String.ofList name) on
            else startFault (name ++ ": invalid shell option name".toList)
          go a (rest.drop 1)
        else
          match known.lookup c with
          | some name =>
            turnSetting name on
            go a rest
          | none =>
            if bash then startFault ([sign, c] ++ ": invalid option".toList) usage
            else startFault ("Illegal option -".toList ++ [c])
    | _ => return { a with rest := args }

/-- Runs the script of a file, which may be missing or a directory. -/
def runFile (r : Runner) (path : Text) : Sh Unit := do
  let opened : Except Refusal Unit ← Sh.call (.openAs 255 path .read)
  let s ← get
  match opened with
  | .error e =>
    if s.bash then
      put 2 (s.name ++ ": ".toList ++ path ++ ": ".toList ++ e.text ++ ['\n'])
      setStatus (if e = .files .accessDenied then 126 else 127)
    else
      let reason : Text := match e with
        | .files .noEntry => "No such file".toList
        | e => e.text
      put 2 (s.name ++ ": 0: cannot open ".toList ++ path ++ ": ".toList ++ reason ++ ['\n'])
      setStatus 2
    throw .exited
  | .ok _ =>
    modify fun s => { s with name := path }
    let t : FileTree ← Sh.call .look
    if s.bash && (Pattern.nodeAt? t true path).any FileTree.Node.isDir then
      put 2 (path ++ ": ".toList ++ path ++ ": Is a directory\n".toList)
      setStatus 126
      throw .exited
    else
      let text ← readAll 255
      Sh.call (.close 255)
      if s.bash then modify fun s => { s with scripts := [path] }
      runText r {} text

/-- The directory as the variables name it, if they name the right one. -/
def startDir (env : List (Text × Text)) (t : FileTree) : Text :=
  let here := Raw.ofText ('/' :: List.intercalate ['/'] t.here)
  match env.lookup "PWD".toList with
  | some p =>
    let isPlain := p.head? = some '/' && !(Text.splitAt '/' p).any fun n => n = ['.'] || n = ['.', '.']
    if isPlain && Utility.placeOf? t p = some t.here then p else here
  | none => here

/-- What a shell knows at first. -/
def firstState (bash : Bool) (self : Text) (env : List (Text × Text)) (id parent now : Nat)
    (t : FileTree) : State :=
  let vars : List (Text × Variable) := env.filterMap fun (n, v) =>
    if isName n then some (n, { value := some (.text v), exported := true }) else none
  let plain := fun (n v : String) => (n.toList, ({ value := some (.text v.toList) } : Variable))
  let dir := startDir env t
  let level := Raw.ofNat (((env.lookup "SHLVL".toList).bind wholeNumber?).getD 0 + 1).toNat
  let own := [plain "IFS" " \t\n", plain "OPTIND" "1", plain "PS4" "+ ",
    ("PPID".toList, { value := some (.text (Raw.ofNat parent)), fixed := bash }),
    ("PWD".toList, { value := some (.text dir), exported := true })] ++
    (if bash then [plain "HOSTNAME" "localhost", plain "OSTYPE" "linux-gnu",
      plain "HOSTTYPE" "x86_64", plain "MACHTYPE" "x86_64-pc-linux-gnu", plain "SHELL" "/bin/sh",
      plain "OPTERR" "1", ("OLDPWD".toList, { exported := true }),
      ("SHLVL".toList, { value := some (.text level), exported := true })]
    else [plain "PS1" "# ", plain "PS2" "> "])
  let anew := ["IFS", "OPTIND", "PWD", "PPID", "SHLVL"].map String.toList
  let missing := own.filter fun v => !(vars.any fun w => w.1 = v.1) || anew.contains v.1
  let kept := vars.filter fun v => !missing.any fun w => w.1 = v.1
  let paths : List (Text × Variable) := if (env.lookup "PATH".toList).isSome then [] else
    [plain "PATH" "/usr/local/sbin:/usr/local/bin:/usr/sbin:/usr/bin:/sbin:/bin"]
  { bash := bash, name := self, vars := kept ++ missing ++ paths, id := id, dir := dir
    options := { more := if bash then bashStandard ++ extraStandard else [] }
    lastWord := (env.lookup ['_']).getD self, startTime := now }

/-- Runs what a shell is asked to run. -/
def runAsked (r : Runner) (args : List Text) : Sh Unit := do
  let a ← asked (args.foldl (fun n a => n + a.length + 1) 1) {} args
  match a.origin, a.rest with
  | .command, [] =>
    startFault ((if (← get).bash then "-c: option requires an argument" else
      "-c requires an argument").toList)
  | .command, text :: rest => do
    modify fun s => { s with
      name := rest.headD s.name, params := rest.drop 1, options := { s.options with command := true } }
    runText r { last := true } text
  | .file, path :: rest => do
    modify fun s => { s with params := rest }
    runFile r path
  | _, rest => do
    modify fun s => { s with params := rest, options := { s.options with stdin := true } }
    runText r {} (← readAll 0)

/-- The work of a shell that is started as a program. -/
def start (bash : Bool) (r : Runner) (self : Text) (args : List Text) (env : List (Text × Text)) :
    Work :=
  .call .self fun id => .call .parent fun parent => .call .look fun t => .call .clock fun now =>
    shellWork r (do
      Sh.call (.pass programTime)
      runAsked r args) (firstState bash self env id parent now t)

end TestWeaver.Shell
