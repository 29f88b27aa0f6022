import TestWeaver.Shell.Output

/-!
Showing commands before they are run.
-/

namespace TestWeaver.Shell

/-- What a traced word looks like in bash. -/
def tracedWord (s : State) (t : Text) : Text :=
  if s.bash then
    if t = [] then "''".toList
    else if t.all fun c => c.isAlphanum || "%+,-./:=@_".toList.contains c || 0x80 ≤ c.toNat then t
    else bashQuoted t
  else t

/-- A text of arguments with blanks between them. -/
def spaced (args : List Text) : Text := List.intercalate [' '] args

/-- What stands in front of a traced command. Bash shows how deep texts are inside others. -/
def traceSign (r : Runner) : Sh Text := do
  let s ← get
  let sign := (s.lookup? "PS4".toList).getD ['+', ' ']
  let sign ← match wordOf? s.bash sign with
    | some w => rawTextOf (expander r) w
    | none => pure sign
  return if s.bash then List.replicate s.indirection (sign.headD '+') ++ sign else sign

/-- Shows a command that is no simple one. -/
def traceText (r : Runner) (t : Text) : Sh Unit := do
  if (← get).options.tracing then put 2 ((← traceSign r) ++ t ++ ['\n'])

/-- What a setting looks like that was made. -/
def tracedSetting (s : State) : Setting → Text
  | .scalar n append _ => n ++ (if append then ['+'] else []) ++ '=' :: tracedWord s (s.lookup n)
  | .element n _ _ _ => n
  | .array n append _ =>
    n ++ (if append then ['+'] else []) ++ "=(".toList ++ spaced ((itemsOf s n).map (tracedWord s)) ++ [')']

/-- Shows the settings and the words of a simple command. -/
def trace (r : Runner) (vs : List Setting) (words : List Text) : Sh Unit := do
  let s ← get
  if s.options.tracing then
    let names := vs.map (tracedSetting s)
    let sign ← traceSign r
    if s.bash then
      for n in names do
        put 2 (sign ++ n ++ ['\n'])
      if words ≠ [] then put 2 (sign ++ spaced (words.map (tracedWord s)) ++ ['\n'])
    else put 2 (sign ++ spaced (names ++ words) ++ ['\n'])

/-- Shows a test between double brackets. -/
def traceTest (r : Runner) (negated : Bool) (ws : List Text) : Sh Unit := do
  let shown := ws.map fun t => if t = [] then "''".toList else t
  traceText r ("[[ ".toList ++ (if negated then "! ".toList else []) ++ spaced shown ++ " ]]".toList)

end TestWeaver.Shell
