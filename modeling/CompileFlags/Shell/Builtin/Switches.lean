import CompileFlags.Shell.Builtin.Variables

set_option autoImplicit false

namespace CompileFlags.Shell

namespace Builtin

def switchNames : List String :=
  ["autocd", "assoc_expand_once", "cdable_vars", "cdspell", "checkhash", "checkjobs", "checkwinsize",
    "cmdhist", "compat31", "compat32", "compat40", "compat41", "compat42", "compat43", "compat44",
    "complete_fullquote", "direxpand", "dirspell", "dotglob", "execfail", "expand_aliases",
    "extdebug", "extglob", "extquote", "failglob", "force_fignore", "globasciiranges", "globskipdots",
    "globstar", "gnu_errfmt", "histappend", "histreedit", "histverify", "hostcomplete",
    "huponexit", "inherit_errexit", "interactive_comments", "lastpipe", "lithist",
    "localvar_inherit", "localvar_unset", "login_shell", "mailwarn", "no_empty_cmd_completion",
    "nocaseglob", "nocasematch", "noexpand_translation", "nullglob", "patsub_replacement",
    "progcomp", "progcomp_alias", "promptvars", "restricted_shell", "shift_verbose", "sourcepath",
    "varredir_close", "xpg_echo"]

def shopt : Builtin := fun _ args => do
  let (options, names) := leadingOptions args
  setStatus 0
  for arg in names do
    let name := textOf arg
    if !switchNames.contains name then
      complain (arg ++ charsOf ": invalid shell option name")
      setStatus 1
    else
      let isOn := (← process).hasSwitch name
      if options.contains 's' then
        if !isOn then modifyProcess fun p => { p with switches := name :: p.switches }
      else if options.contains 'u' then
        modifyProcess fun p => { p with switches := p.switches.filter (· != name) }
      else
        if !options.contains 'q' then
          let _ ← write 1 (arg ++ List.replicate (15 - arg.length) ' ' ++
            charsOf (if isOn then "\ton\n" else "\toff\n"))
        if !isOn then setStatus 1

def dirs : Builtin := fun _ args => do
  let p ← process
  if args.head? = some ['-', 'c'] then modifyProcess ({ · with folders := [] })
  else
    let all := p.folder :: p.folders
    let separator := if args.contains ['-', 'p'] then ['\n'] else [' ']
    printAll (separator.intercalate all ++ ['\n'])

def pushd (cd : Builtin) : Builtin := fun calls args => do
  let p ← process
  let go (target : Chars) (kept : List Chars) : Act Unit := do
    cd calls [target]
    if (← status) = 0 then
      modifyProcess ({ · with folders := kept })
      dirs calls []
  match args, p.folders with
  | target :: _, folders => go target (p.folder :: folders)
  | [], first :: rest => go first (p.folder :: rest)
  | [], [] =>
    complain (charsOf "no other directory")
    setStatus 1

def popd (cd : Builtin) : Builtin := fun calls _ => do
  match (← process).folders with
  | first :: rest =>
    cd calls [first]
    if (← status) = 0 then
      modifyProcess ({ · with folders := rest })
      dirs calls []
  | [] =>
    complain (charsOf "directory stack empty")
    setStatus 1

end Builtin

end CompileFlags.Shell
