import CompileFlags.Shell.Builtin.Control
import CompileFlags.Shell.Tool.Basic

set_option autoImplicit false

namespace CompileFlags.Shell

open Disk

/-- The arguments of a shell, read. -/
structure Invocation where
  options : Chars := []
  command : Bool := false
  input : Bool := false
  operands : List Chars := []

abbrev Refusal := Chars

def Invocation.withLetter (i : Invocation) (on : Bool) (c : Char) : Invocation :=
  let others := i.options.filter (· != c)
  { i with options := if on then others ++ [c] else others }

def readLetters (extended on : Bool) (i : Invocation) (rest : List Chars) :
    Chars → Except Refusal (Invocation × List Chars)
  | [] => .ok (i, rest)
  | 'c' :: letters => readLetters extended on { i with command := true } rest letters
  | 'o' :: letters =>
    match rest with
    | name :: rest =>
      match Builtin.optionNames.lookup (textOf name) with
      | some c => readLetters extended on (i.withLetter on c) rest letters
      | none => .error (charsOf "-o " ++ name)
    | [] => readLetters extended on i rest letters
  | c :: letters =>
    if c = 's' then readLetters extended on { i with input := true } rest letters
    else if c = 'l' then readLetters extended on i rest letters
    else if Builtin.isOption extended c then
      readLetters extended on (i.withLetter on c) rest letters
    else .error [if on then '-' else '+', c]

def readInvocation (extended : Bool) : Nat → Invocation → List Chars → Except Refusal Invocation
  | 0, i, args => .ok { i with operands := args }
  | _, i, [] => .ok i
  | n + 1, i, arg :: rest =>
    match arg with
    | ['-'] | ['-', '-'] => .ok { i with operands := rest }
    | '-' :: '-' :: name =>
      if extended then
        let takesFile := ["rcfile", "init-file"].contains (textOf name)
        readInvocation extended n i (if takesFile then rest.drop 1 else rest)
      else .error ['-', '-']
    | sign :: c :: letters =>
      if sign = '-' ∨ sign = '+' then
        match readLetters extended (sign == '-') i rest (c :: letters) with
        | .ok (i, rest) => readInvocation extended n i rest
        | .error refusal => .error refusal
      else .ok { i with operands := arg :: rest }
    | _ => .ok { i with operands := arg :: rest }

def sayEarly (name : Chars) (extended : Bool) (text : Chars) : Act Unit := do
  let _ ← write 2 (name ++ charsOf (if extended then ": " else ": 0: ") ++ text ++ ['\n'])

def startVariables (vars : List (String × Variable)) (extended : Bool) (folder : Chars) :
    List (String × Variable) :=
  let plain (s : String) : Variable := { value := .text (charsOf s) }
  let own : List (String × Variable) :=
    [("IFS", plain " \t\n"), ("OPTIND", plain "1"), ("PS1", plain "# "), ("PS2", plain "> "),
      ("PS4", plain "+ "), ("PPID", plain (toString (processNumber - 1))),
      ("PWD", { value := .text folder, exported := true })]
  let own := if extended then own ++
      [("BASH", plain "/usr/bin/bash"), ("BASH_VERSION", plain "5.2.15(1)-release"),
        ("OSTYPE", plain "linux-gnu"), ("HOSTTYPE", plain "x86_64"), ("UID", plain "0"),
        ("EUID", plain "0"), ("HOME", plain "/root"), ("SHELL", plain "/bin/bash"),
        ("TERM", plain "dumb"), ("MACHTYPE", plain "x86_64-pc-linux-gnu"),
        ("HOSTNAME", plain "localhost"), ("OPTERR", plain "1"),
        ("SHLVL", { value := .text ['1'], exported := true }),
        ("OLDPWD", { exported := true })]
    else own
  let given := vars.filter fun (name, v) =>
    v.exported && !(own.lookup name).isSome
  given ++ own

def freshProcess (name : Chars) (vars : List (String × Variable)) (descriptors : List (Nat × Nat)) :
    Process where
  number := 0
  name := name
  args := []
  vars := vars
  functions := []
  aliases := []
  descriptors := descriptors
  folder := []
  jobs := []
  optionOffset := 0
  status := 0
  outputStatus := none
  options := []
  extended := false
  tested := false
  isChild := false
  line := 1
  loops := 0
  calls := 0
  hidden := []
  traps := []
  speaker := none
  mask := 0o22
  remembered := ([], [])
  switches := []
  stageStatuses := [0]
  callers := []
  nesting := 0
  folders := []

def runExitAction (calls : Calls) : Act Unit := do
  let p ← process
  match p.traps.lookup "EXIT" with
  | none => return
  | some action =>
    modifyProcess ({ · with traps := p.traps.filter (·.1 != "EXIT"), calls := 0, loops := 0 })
    match ← attempt (calls.script action p.line) with
    | .error .exit => return
    | .error (.killed name) => throw (.killed name)
    | .error .exhausted => throw .exhausted
    | _ => setStatus p.status

def finishing (calls : Calls) (body : Act Unit) : Act Unit := do
  match ← attempt body with
  | .error (.killed name) => throw (.killed name)
  | .error .exhausted => throw .exhausted
  | _ => runExitAction calls

/-- The path of the working folder as the environment has it, if that is where it leads. -/
def startFolder : Act Chars := do
  let w ← world
  match w.cwd with
  | none => return []
  | some place =>
    match (← process).environment.lookup "PWD" with
    | some path =>
      let same : Bool := match w.place .follow ⟨textOf path⟩ with
        | .ok other => other == place
        | .error _ => false
      if same ∧ path.head? = some '/' then return path
      return charsOf (pathOf place).text
    | none => return charsOf (pathOf place).text

def runShell (extended : Bool) (calls : Calls) (argv : List Chars) : Act Unit := do
  let own := argv.headD []
  let p ← process
  let folder ← startFolder
  let number := processNumber + (← get).serial
  modify fun m => { m with serial := m.serial + 1 }
  if folder.isEmpty then
    if extended then
      sayEarly (charsOf "shell-init") true (charsOf ("error retrieving current directory: getcwd: " ++
        "cannot access parent directories: No such file or directory"))
    else sayEarly (charsOf "sh") false (charsOf "getcwd() failed: No such file or directory")
  match readInvocation extended (argv.length + 1) {} (argv.drop 1) with
  | .error refusal =>
    if extended then sayEarly own true (refusal ++ charsOf ": invalid option")
    else sayEarly own false (charsOf "Illegal option " ++ refusal)
    setStatus 2
  | .ok i =>
    let start (name : Chars) (args : List Chars) (script : Chars) : Act Unit := do
      let vars := startVariables p.vars extended folder
      modifyProcess fun _ =>
        { freshProcess name vars p.descriptors with
          number := number
          args := args
          folder := folder
          options := i.options
          extended := extended }
      finishing calls (calls.script script 1)
    if i.command then
      match i.operands with
      | [] =>
        sayEarly own extended (charsOf (if extended then "-c: option requires an argument"
          else "-c requires an argument"))
        setStatus 2
      | script :: rest => start (rest.headD own) (rest.drop 1) script
    else if i.input ∨ i.operands.isEmpty then start own i.operands (← readAll 0)
    else
      let name := i.operands.headD []
      let found ← if extended then programScript name else pure none
      let path := found.getD name
      match (← world).readBytes ⟨textOf path⟩ with
      | .ok content => start name (i.operands.drop 1) (charsOfBytes content)
      | .error cause =>
        if extended then
          sayEarly own true (name ++ charsOf (": " ++ cause.reason))
          setStatus (if cause = .notFound then 127 else 126)
        else
          sayEarly own false (openReason false .read name cause)
          setStatus 2
where
  programScript (name : Chars) : Act (Option Chars) := do
    if (← world).hasPath ⟨textOf name⟩ then return none else Builtin.scriptPath name

end CompileFlags.Shell
