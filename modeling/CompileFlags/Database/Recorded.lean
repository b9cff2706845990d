import CompileFlags.Flag

set_option autoImplicit false

/-!
# Flags of a recorded command

A recorded command builds one file; what it says about reading that file is kept. Gone are the
compiler with the launcher in front of it, the file itself, and the switches that only concern the
output. Include directories become absolute; everything else stays, in order.
-/

namespace CompileFlags.Database

def includeSwitches : List String := ["-I", "-isystem", "-idirafter", "-iquote"]

def isSwitch (arg : String) : Bool :=
  arg.toList.head? == some '-'

def after? (start arg : String) : Option String :=
  if start.toList.isPrefixOf arg.toList then
    some (String.ofList (arg.toList.drop start.toList.length))
  else none

/-- An include switch joined with its directory. Longer switches come first, so that no directory
starts inside a longer switch. -/
def joined? (arg : String) : Option (String × String) :=
  ["-isystem", "-idirafter", "-iquote", "-I"].findSome? fun switch =>
    match after? switch arg with
    | some rest => if rest = "" then none else some (switch, rest)
    | none => none

def isJoinedOutput (arg : String) : Bool :=
  match after? "-o" arg with
  | some rest => rest != ""
  | none => false

def isInput (file directory : Path) (arg : String) : Bool :=
  !isSwitch arg && (directory.absolutize ⟨arg⟩).same file

def flagsOfArgs (file directory : Path) : List String → FlagList
  | [] => []
  | arg :: rest =>
    if arg = "-c" then flagsOfArgs file directory rest
    else if arg = "-o" then
      match rest with
      | [] => []
      | _ :: rest => flagsOfArgs file directory rest
    else if isJoinedOutput arg then flagsOfArgs file directory rest
    else if isInput file directory arg then flagsOfArgs file directory rest
    else if arg ∈ includeSwitches then
      match rest with
      | [] => [.bare arg]
      | dir :: rest => ⟨arg, (directory.absolutize ⟨dir⟩).text⟩ :: flagsOfArgs file directory rest
    else match joined? arg with
      | some (switch, dir) =>
        ⟨switch, (directory.absolutize ⟨dir⟩).text⟩ :: flagsOfArgs file directory rest
      | none => .bare arg :: flagsOfArgs file directory rest

def argsOfCommand (argv : List String) : List String :=
  (argv.drop 1).dropWhile fun arg => !isSwitch arg

def flagsOfCommand (argv : List String) (file directory : Path) : FlagList :=
  flagsOfArgs file directory (argsOfCommand argv)

end CompileFlags.Database
