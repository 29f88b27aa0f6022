import TestWeaver.Shell.Builtin.Variables

/-!
The settings of bash that have names of their own.
-/

namespace TestWeaver.Shell

def extraNames : List String :=
  ["autocd", "assoc_expand_once", "cdable_vars", "cdspell", "checkhash", "checkjobs", "checkwinsize",
    "cmdhist", "compat31", "compat32", "compat40", "compat41", "compat42", "compat43", "compat44",
    "complete_fullquote", "direxpand", "dirspell", "dotglob", "execfail", "expand_aliases",
    "extdebug", "extglob", "extquote", "failglob", "force_fignore", "globasciiranges",
    "globskipdots", "globstar", "gnu_errfmt", "histappend", "histreedit", "histverify",
    "hostcomplete", "huponexit", "inherit_errexit", "interactive_comments", "lastpipe", "lithist",
    "localvar_inherit", "localvar_unset", "login_shell", "mailwarn", "no_empty_cmd_completion",
    "nocaseglob", "nocasematch", "noexpand_translation", "nullglob", "patsub_replacement",
    "progcomp", "progcomp_alias", "promptvars", "restricted_shell", "shift_verbose", "sourcepath",
    "varredir_close", "xpg_echo"]

/-- The ones that are on at first. -/
def extraStandard : List String :=
  ["checkwinsize", "cmdhist", "complete_fullquote", "extquote", "force_fignore", "globasciiranges",
    "globskipdots", "hostcomplete", "interactive_comments", "patsub_replacement", "progcomp",
    "promptvars", "sourcepath"]

/-- A setting and whether it is on, in a row or as a command. -/
def extraRow (asCommand ofSet : Bool) (name : String) (on : Bool) : Text :=
  if asCommand then
    (if ofSet then (if on then "set -o " else "set +o ") else if on then "shopt -s " else "shopt -u ").toList ++
      name.toList ++ ['\n']
  else settingRow name on

/-- Turns settings on or off, or tells of them. -/
def shellOptions : Builtin := fun _ _ args => do
  let (os, names) ← options "pqsuo" args
  let ofSet := hasOption 'o' os
  let known := if ofSet then bashSettingNames else extraNames
  let on := hasOption 's' os
  let off := hasOption 'u' os
  if on && off then refused 1 "cannot set and unset shell options simultaneously".toList
  setStatus 0
  let isNowOn := fun (n : String) => do return isOn (← get).options n
  if names = [] then
    if !hasOption 'q' os then
      for n in known do
        let b ← isNowOn n
        if !(on && !b) && !(off && b) then say (extraRow (hasOption 'p' os) ofSet n b)
  else
    let mut fine := true
    for name in names do
      let n := String.ofList name
      if !known.contains n then
        complain (name ++ (if ofSet then ": invalid option name" else ": invalid shell option name").toList)
        fine := false
      else if on || off then turnSetting n on
      else
        let b ← isNowOn n
        fine := fine && b
        if !hasOption 'q' os then say (extraRow (hasOption 'p' os) ofSet n b)
    if !fine then setStatus 1

end TestWeaver.Shell
