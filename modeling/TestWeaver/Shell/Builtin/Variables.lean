import TestWeaver.Shell.Output

/-!
Builtins that set variables, parameters and settings.
-/

namespace TestWeaver.Shell

/-! ### variables -/

def markExported (v : Variable) : Variable := { v with exported := true }

def markFixed (v : Variable) : Variable := { v with fixed := true }

/-- The line by which a variable could be set again. -/
def variableRow (front : Text) (name : Text) (v : Variable) : Text :=
  let value : Text :=
    match v.value.bind State.Value.first with
    | some t => '=' :: requoted t
    | none => []
  front ++ name ++ value ++ ['\n']

/-- Marks variables, or lists those that are marked. -/
def marking (word : String) (mark : Variable → Variable) (isMarked : Variable → Bool) : Builtin :=
  fun _ _ args => do
    let (os, names) ← options "p" args
    if hasOption 'p' os || names = [] then
      let rows := (sortedNames (← get).vars).filter fun v => isMarked v.2
      say (rows.flatMap fun (n, v) => variableRow (word.toList ++ [' ']) n v)
    else
      for a in names do
        match Text.cut? ['='] a with
        | some (n, t) =>
          if isName n then
            assign n t
            modify fun s => s.putVariable n (mark ((s.var? n).getD {}))
          else badName n
        | none =>
          if isName a then
            modify fun s => s.putVariable a (mark ((s.var? a).getD {}))
          else badName a
    setStatus 0

def exportVariables : Builtin := marking "export" markExported (·.exported)

def fixVariables : Builtin := marking "readonly" markFixed (·.fixed)

def localVariables : Builtin := fun _ _ args => do
  if !(← get).isCalled then fail "not in a function".toList
  for a in args do
    match Text.cut? ['='] a with
    | some (n, t) =>
      if isName n then
        makeLocal n
        assign n t
      else badName n
    | none => if isName a then makeLocal a else badName a
  setStatus 0

/-- Takes a part of an array away. -/
def unsetItem (base i : Text) : Sh Unit := do
  match ((← get).var? base).bind (·.value) with
  | some (.items xs) =>
    let k := (Arithmetic.number? i).getD 0
    let last := xs.foldl (fun m x => max m x.1) (-1)
    let k := if k < 0 then last + 1 + k else k
    setValue base (.items (xs.filter fun x => x.1 ≠ k))
  | some (.table xs) => setValue base (.table (xs.filter fun x => x.1 ≠ i))
  | _ => pure ()

def forgetFunction (n : Text) : Sh Unit :=
  modify fun s => { s with functions := s.functions.filter fun f => f.1 ≠ n }

/-- Takes away what a name stands for in bash; the answer says whether that may be done. -/
def unsetBash (os : List (Char × Text)) (n : Text) : Sh Bool := do
  let (base, i) := splitSubscript n
  let s ← get
  if hasOption 'f' os then
    forgetFunction n
    return true
  else if let some i := i then
    unsetItem base i
    return true
  else if !isName n then
    if hasOption 'v' os then
      complain ('\x60' :: n ++ "': not a valid identifier".toList)
      return false
    else
      forgetFunction n
      return true
  else
    match if hasOption 'n' os then s.ownVar? n else s.var? n with
    | none =>
      if !hasOption 'v' os then forgetFunction n
      return true
    | some v =>
      if v.fixed then
        complain (n ++ ": cannot unset: readonly variable".toList)
        return false
      else
        let n := if hasOption 'n' os then n else s.target n
        modify fun s => { s with vars := s.vars.filter fun v => v.1 ≠ n }
        return true

def unsetNames : Builtin := fun _ _ args => do
  let bash := (← get).bash
  let (os, names) ← options (if bash then "vfn" else "vf") args
  let mut fine := true
  for n in names do
    if bash then
      let done ← unsetBash os n
      fine := fine && done
    else if hasOption 'f' os then forgetFunction n
    else if !isName n then badName n
    else unset n
  setStatus (if fine then 0 else 1)

/-! ### settings -/

def settingNames : List String :=
  ["errexit", "noglob", "ignoreeof", "interactive", "monitor", "noexec", "stdin", "xtrace",
    "verbose", "vi", "emacs", "noclobber", "allexport", "notify", "nounset", "privileged", "nolog",
    "debug"]

def isOn (o : Options) (name : String) : Bool :=
  match name with
  | "errexit" => o.failing
  | "noglob" => o.noFiles
  | "noexec" => o.reading
  | "stdin" => o.stdin
  | "xtrace" => o.tracing
  | "verbose" => o.echoing
  | "noclobber" => o.keeping
  | "allexport" => o.exporting
  | "nounset" => o.defined
  | "pipefail" => o.pipeFail
  | _ => o.more.contains name

def turn (o : Options) (name : String) (b : Bool) : Options :=
  match name with
  | "errexit" => { o with failing := b }
  | "noglob" => { o with noFiles := b }
  | "noexec" => { o with reading := b }
  | "stdin" => { o with stdin := b }
  | "xtrace" => { o with tracing := b }
  | "verbose" => { o with echoing := b }
  | "noclobber" => { o with keeping := b }
  | "allexport" => { o with exporting := b }
  | "nounset" => { o with defined := b }
  | "pipefail" => { o with pipeFail := b }
  | _ =>
    let rest := o.more.filter (· ≠ name)
    { o with more := if b then rest ++ [name] else rest }

def settingLetters : List (Char × String) :=
  [('e', "errexit"), ('f', "noglob"), ('n', "noexec"), ('x', "xtrace"), ('v', "verbose"),
    ('C', "noclobber"), ('a', "allexport"), ('u', "nounset"), ('b', "notify"), ('m', "monitor"),
    ('I', "ignoreeof"), ('i', "interactive"), ('p', "privileged"), ('s', "stdin"), ('V', "vi"),
    ('E', "emacs")]

def bashSettingLetters : List (Char × String) :=
  [('a', "allexport"), ('b', "notify"), ('e', "errexit"), ('f', "noglob"), ('h', "hashall"),
    ('k', "keyword"), ('m', "monitor"), ('n', "noexec"), ('p', "privileged"), ('t', "onecmd"),
    ('u', "nounset"), ('v', "verbose"), ('x', "xtrace"), ('B', "braceexpand"), ('C', "noclobber"),
    ('E', "errtrace"), ('H', "histexpand"), ('P', "physical"), ('T', "functrace")]

def bashSettingNames : List String :=
  ["allexport", "braceexpand", "emacs", "errexit", "errtrace", "functrace", "hashall", "histexpand",
    "history", "ignoreeof", "interactive-comments", "keyword", "monitor", "noclobber", "noexec",
    "noglob", "nolog", "notify", "nounset", "onecmd", "physical", "pipefail", "posix", "privileged",
    "verbose", "vi", "xtrace"]

/-- The settings of bash that are on at first. -/
def bashStandard : List String := ["braceexpand", "hashall", "interactive-comments"]

def padRight (n : Nat) (t : Text) : Text := t ++ List.replicate (n - t.length) ' '

/-- A setting and whether it is on, in a row. -/
def settingRow (name : String) (on : Bool) : Text :=
  padRight 15 name.toList ++ '\t' :: (if on then "on\n" else "off\n").toList

def listSettings (asCommands : Bool) : Sh Unit := do
  let s ← get
  let o := s.options
  let names := if s.bash then bashSettingNames else settingNames
  if asCommands then
    say (names.flatMap fun n =>
      (if isOn o n then "set -o " else "set +o ").toList ++ n.toList ++ ['\n'])
  else if s.bash then say (names.flatMap fun n => settingRow n (isOn o n))
  else
    say ("Current option settings\n".toList ++ names.flatMap fun n =>
      padRight 16 n.toList ++ (if isOn o n then "on\n" else "off\n").toList)

def turnSetting (name : String) (b : Bool) : Sh Unit :=
  modify fun s => { s with options := turn s.options name b }

/-- What `set -q` says of a letter that means nothing. -/
def badSetting {α : Type} (t : Text) : Sh α := do
  if (← get).bash then misuse (t ++ ": invalid option".toList)
  else fail ("Illegal option ".toList ++ t)

/-- Reads settings and says which arguments are left; nothing if no parameters are given. -/
def settingsFrom : Nat → List Text → Sh (Option (List Text))
  | 0, _ => return none
  | n + 1, args => do
    let bash := (← get).bash
    let letters := if bash then bashSettingLetters else settingLetters
    match args with
    | [] => return none
    | ['-', '-'] :: rest => return some rest
    | ['-'] :: rest => do
      turnSetting "xtrace" false
      turnSetting "verbose" false
      return if rest = [] then none else some rest
    | (sign :: c :: cs) :: rest =>
      if sign = '-' || sign = '+' then
        let on := sign = '-'
        if c = 'o' && cs = [] then
          match rest with
          | [] =>
            listSettings (!on)
            return none
          | name :: rest =>
            let known := if bash then bashSettingNames else settingNames
            if known.any fun k => k.toList = name then
              turnSetting (String.ofList name) on
              settingsFrom n rest
            else if bash then refused 2 (name ++ ": invalid option name".toList)
            else badSetting ("-o ".toList ++ name)
        else
          match letters.lookup c with
          | none => if c = 'o' then settingsFrom n ((sign :: cs ++ ['o']) :: rest) else badSetting [sign, c]
          | some name =>
            turnSetting name on
            settingsFrom n (if cs = [] then rest else (sign :: cs) :: rest)
      else return some args
    | _ => return some args

/-- A variable as bash lists it. -/
def shownValue (v : Variable) : Text :=
  match v.value with
  | none => []
  | some (.text t) =>
    if t ≠ [] && t.all Utility.isSafe then t else if t = [] then [] else bashQuoted t
  | some (.items xs) =>
    '(' :: List.intercalate [' '] (xs.map fun (i, t) =>
      '[' :: Raw.ofInt i ++ "]=".toList ++ doubleQuoted t) ++ [')']
  | some (.table xs) =>
    '(' :: xs.flatMap (fun (k, t) => '[' :: k ++ "]=".toList ++ doubleQuoted t ++ [' ']) ++ [')']

def setAll : Builtin := fun _ _ args => do
  if args = [] then
    let rows := (sortedNames (← get).vars).filter fun v => v.2.value.isSome
    if (← get).bash then say (rows.flatMap fun (n, v) => n ++ '=' :: shownValue v ++ ['\n'])
    else say (rows.flatMap fun (n, v) => variableRow [] n v)
  else
    let fuel := args.foldl (fun n a => n + a.length + 1) 1
    if let some ps ← settingsFrom fuel args then
      modify fun s => { s with params := ps, optionOffset := 0 }
      if !(← get).bash then
        modify fun s => s.putVariable "OPTIND".toList
          { (s.var? "OPTIND".toList).getD {} with value := some (.text ['1']) }
  setStatus 0

def shiftParams : Builtin := fun _ _ args => do
  if (← get).bash && 1 < args.length then tooMany
  let n ← match args with
    | [] => pure 1
    | a :: _ => do
      if (← get).bash then
        match wholeNumber? a with
        | none => refused 1 (a ++ ": numeric argument required".toList)
        | some n =>
          if n < 0 then refused 1 (a ++ ": shift count out of range".toList)
          pure n.toNat
      else natural a
  let s ← get
  if s.params.length < n then
    if s.bash then setStatus 1 else fail "can't shift that many".toList
  else
    set { s with params := s.params.drop n }
    setStatus 0

/-! ### options of scripts -/

/-- What reading one option of a script comes to. -/
structure OptionStep where
  letter : Char := '?'
  value : Option Text := none
  index : Nat
  offset : Nat := 0
  message : Option (String × Char) := none
  isEnd : Bool := false

/-- Whether a letter is known, and whether a text belongs to it. -/
def optionKind (letters : Text) (c : Char) : Option Bool :=
  match letters with
  | [] => none
  | d :: r =>
    let takes := r.head? = some ':'
    if d = c then some takes else optionKind (if takes then r.drop 1 else r) c
termination_by letters.length
decreasing_by
  simp_wf
  split
  · rw [List.length_tail]
    omega
  · omega

def nextOption (letters : Text) (args : List Text) (index offset : Nat) : OptionStep :=
  let current := args.getD (index - 2) []
  let inside := 2 ≤ index && 0 < offset && offset < current.length
  let word := if inside then some (current, index, offset) else
    match args[index - 1]? with
    | some ('-' :: c :: cs) => some ('-' :: c :: cs, index + 1, 1)
    | _ => none
  match word with
  | none => { index := index, isEnd := true }
  | some (w, index, offset) =>
    if w = "--".toList && offset = 1 then { index := index, isEnd := true }
    else
      let c := w.getD offset '?'
      let rest := w.drop (offset + 1)
      let silent := letters.head? = some ':'
      let after := if rest = [] then 0 else offset + 1
      match optionKind letters c with
      | none =>
        if silent then { value := some [c], index := index, offset := after }
        else { index := index, offset := after, message := some ("Illegal option -", c) }
      | some false => { letter := c, value := some [], index := index, offset := after }
      | some true =>
        if rest ≠ [] then { letter := c, value := some rest, index := index }
        else
          match args[index - 1]? with
          | some a => { letter := c, value := some a, index := index + 1 }
          | none =>
            if silent then { letter := ':', value := some [c], index := index }
            else { index := index, message := some ("No arg for -", c) }

def getOptions : Builtin := fun _ _ args => do
  match args with
  | letters :: name :: rest =>
    let s ← get
    let words := if rest = [] then s.params else rest
    let index := ((Arithmetic.number? (s.lookup "OPTIND".toList)).getD 1).toNat
    let step := nextOption letters words (max index 1) s.optionOffset
    if let some (m, c) := step.message then
      if s.bash then
        if s.lookup "OPTERR".toList ≠ ['0'] then put 2 (s.name ++ (if m = "No arg for -" then ": option requires an argument -- ".toList
          else ": illegal option -- ".toList) ++ [c, '\n'])
      else put 2 (m.toList ++ c :: (if m = "No arg for -" then " option\n".toList else ['\n']))
    match step.value with
    | some v => if v ≠ [] || !s.bash then assign "OPTARG".toList v else unset "OPTARG".toList
    | none => if s.bash || !step.isEnd then unset "OPTARG".toList
    assign "OPTIND".toList (Raw.ofNat step.index)
    modify fun s => { s with optionOffset := step.offset }
    if !isName name then badName name
    assign name [step.letter]
    setStatus (if step.isEnd then 1 else 0)
  | _ =>
    if (← get).bash then
      sayUsage
      setStatus 2
    else fail "Usage: getopts optstring var [arg...]".toList

/-! ### other names -/

def aliasRow (bash : Bool) (n t : Text) : Text :=
  (if bash then "alias ".toList else []) ++ n ++ '=' :: (if bash then bashQuoted t else requoted t) ++
    ['\n']

def aliasNames : Builtin := fun _ _ args => do
  let s ← get
  let (_, args) ← if s.bash then options "p" args else pure ([], args)
  setStatus 0
  if args = [] then
    let rows := s.aliases.mergeSort fun a b => !(b.1 < a.1)
    say (rows.flatMap fun (n, t) => aliasRow s.bash n t)
  for a in args do
    match if a.head? = some '=' then none else Text.cut? ['='] a with
    | some (n, t) =>
      if s.bash && n.any fun c => isBlank c || "$\x60'\"\\/&|<>()".toList.contains c then
        refuse 1 ('\x60' :: n ++ "': invalid alias name".toList)
      else modify fun s => { s with aliases := State.setEntry n t s.aliases }
    | none =>
      match s.aliases.lookup a with
      | some t => say (aliasRow s.bash a t)
      | none =>
        if s.bash then complain (a ++ ": not found".toList)
        else put 2 ("alias: ".toList ++ a ++ " not found\n".toList)
        setStatus 1

def unaliasNames : Builtin := fun _ _ args => do
  let (os, names) ← options "a" args
  if (← get).bash && args = [] then
    sayUsage
    setStatus 2
    return
  setStatus 0
  if hasOption 'a' os then modify fun s => { s with aliases := [] }
  for n in names do
    if ((← get).aliases.lookup n).isSome then
      modify fun s => { s with aliases := s.aliases.filter fun a => a.1 ≠ n }
    else
      if (← get).bash then complain (n ++ ": not found".toList)
      else put 2 ("unalias: ".toList ++ n ++ " not found\n".toList)
      setStatus 1

end TestWeaver.Shell
