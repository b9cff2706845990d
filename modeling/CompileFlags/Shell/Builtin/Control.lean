import CompileFlags.Shell.Builtin.Names
import CompileFlags.Shell.Builtin.Switches
import CompileFlags.Shell.Redirection

set_option autoImplicit false

namespace CompileFlags.Shell

open Disk

def launch (calls : Calls) (argv : List Chars) : Act Unit := do
  let _ ← rememberProgram (argv.headD [])
  let name := argv.headD []
  let isHopeless := '/' ∉ name ∧ (← variableValue? "PATH").isNone
  match ← if isHopeless then pure (.error .notFound) else calls.start argv with
  | .ok status => setStatus status
  | .error cause =>
    let extended := (← process).extended
    let w ← world
    let isMissing := cause = .notFound ∨ cause = .notDirectory
    let reason : String :=
      if !extended then if isMissing then "not found" else cause.reason
      else if isMissing ∧ '/' ∉ name then "command not found"
      else if cause = .denied ∧ Test.property w "-d" name then "Is a directory"
      else if cause = .notExecutable then "cannot execute binary file: " ++ cause.reason
      else cause.reason
    complain (name ++ charsOf (": " ++ reason))
    let isLost := isMissing ∨ cause = .tooManyLinks ∨ cause = .nameTooLong
    setStatus (if isLost then 127 else 126)

namespace Builtin

def numberArgument (arg : Chars) : Act Nat := do
  match nat? arg with
  | some n => return n
  | none =>
    if (← process).extended then fault (arg ++ charsOf ": numeric argument required")
    else fault (charsOf "Illegal number: " ++ arg)

def leaveLoop (signal : Nat → Signal) : Builtin := fun _ args => do
  let n ← match args with
    | arg :: _ => numberArgument arg
    | [] => pure 1
  if n = 0 then fault (charsOf "Illegal number: 0")
  let p ← process
  setStatus 0
  if p.loops ≠ 0 then throw (signal (min n p.loops))
  else if p.extended then
    complain (charsOf "only meaningful in a \x60for', \x60while', or \x60until' loop")

/-- Set the status that an argument gives; the extended shell takes negative ones too. -/
def setStatusArgument (args : List Chars) : Act Unit := do
  match (← process).extended, args with
  | _, [] => return
  | true, ('-' :: arg) :: _ =>
    match nat? arg with
    | some n => setStatus ((256 - n % 256) % 256)
    | none => setStatus ((← numberArgument ('-' :: arg)) % 256)
  | true, arg :: _ => setStatus ((← numberArgument arg) % 256)
  | false, arg :: _ => setStatus (← numberArgument arg)

def exit : Builtin := fun _ args => do
  setStatusArgument args
  throw .exit

def return_ : Builtin := fun _ args => do
  let p ← process
  if p.extended ∧ p.calls = 0 then
    complain (charsOf "can only \x60return' from a function or sourced script")
    setStatus 2
  else
    setStatusArgument args
    throw (if p.calls = 0 then .exit else .leave)

def eval : Builtin := fun calls args => do
  let text := [' '].intercalate args
  let p ← process
  setStatus 0
  modifyProcess ({ · with nesting := p.nesting + 1 })
  let text := if p.extended then text ++ ['\n'] else text
  let result ← attempt (calls.script text p.line)
  modifyProcess ({ · with nesting := p.nesting })
  match result with
  | .ok () => return
  | .error signal => throw signal

def leavable (body : Act Unit) : Act Unit := do
  let calls := (← process).calls
  modifyProcess ({ · with calls := calls + 1 })
  let result ← attempt body
  modifyProcess ({ · with calls := calls })
  match result with
  | .ok () | .error .leave => return
  | .error signal => throw signal

/-- The path of a script to read: one with a slash as it is, another one from the folders of
programs or, in the extended shell, from the working folder. -/
def scriptPath (name : Chars) : Act (Option Chars) := do
  if '/' ∈ name then return some name
  let w ← world
  let dirs ← programFolders
  let found := (dirs.map fun dir => charsOf (dir.child (textOf name)).text).find? fun path =>
    w.isFile ⟨textOf path⟩
  if found.isSome then return found
  return if (← process).extended ∧ w.isFile ⟨textOf name⟩ then some name else none

def dot : Builtin := fun calls args => do
  let args := if args.head? = some ['-', '-'] then args.drop 1 else args
  match args with
  | [] => setStatus (if (← process).extended then 2 else 0)
  | name :: others =>
    let p ← process
    let w ← world
    match ← scriptPath name with
    | none =>
      if p.extended then
        modifyProcess ({ · with speaker := none })
        complain (name ++ charsOf ": No such file or directory")
        setStatus 1
      else fault (name ++ charsOf ": not found")
    | some path =>
      match w.readBytes ⟨textOf path⟩ with
      | .error cause =>
        if p.extended then
          modifyProcess ({ · with speaker := none })
          complain (path ++ charsOf ": " ++ charsOf cause.reason)
          setStatus 1
        else fault (openReason false .read path cause)
      | .ok content =>
        setStatus 0
        let args := if p.extended ∧ !others.isEmpty then others else p.args
        modifyProcess ({ · with
          speaker := if p.extended then none else some (textOf path)
          args := args })
        let result ← attempt (leavable (calls.script (charsOfBytes content) 1))
        modifyProcess fun q => { q with
          speaker := p.speaker
          args := if others.isEmpty ∨ !p.extended then q.args else p.args }
        match result with
        | .ok () => return
        | .error signal => throw signal

def exec : Builtin := fun calls args => do
  let args := match (← process).extended, args with
    | true, ['-', '-'] :: rest => rest
    | true, ['-', 'a'] :: _ :: rest => rest
    | true, ['-', 'c'] :: rest => rest
    | _, args => args
  if args.isEmpty then setStatus 0
  else
    modifyProcess ({ · with traps := [] })
    launch calls args
    throw .exit

def cd : Builtin := fun _ args => do
  let p ← process
  let (options, args) := match args with
    | ['-'] :: _ => ([], args)
    | args => leadingOptions args
  let w ← world
  let isPhysical := options.getLast? = some 'P'
  let refuse (name reason : Chars) : Act Unit := do
    if p.extended then
      complain (name ++ charsOf ": " ++ reason)
      setStatus 1
    else fault (charsOf "can't cd to " ++ name)
  let cdPath := (((p.value? "CDPATH").map fun s => Text.splitOn ':' s).getD []).map fun dir =>
    if dir.isEmpty ∨ dir.getLast? = some '/' then dir else dir ++ ['/']
  let isSearched (name : Chars) : Bool :=
    !(name.isEmpty || ["/", "./", "../"].any fun s => s.toList.isPrefixOf name) &&
      name != ['.'] && name != ['.', '.']
  let go (name : Chars) (shown : Bool) : Act Unit := do
    let dir := if isSearched name then
        (cdPath.find? fun dir => !dir.isEmpty && Test.property w "-d" (dir ++ name)).getD []
      else []
    let shown := shown || !dir.isEmpty
    let name := dir ++ name
    let target : Path := ⟨textOf name⟩
    let path := if isPhysical then target else (Path.mk (textOf p.folder)).absolutize target
    match w.changeDir (if name.isEmpty then w.base else path) with
    | .error cause => refuse name (charsOf cause.reason)
    | .ok w =>
      setWorld w
      let folder := if isPhysical ∨ name.isEmpty then charsOf w.base.text else charsOf path.text
      setVariable "OLDPWD" p.folder
      setVariable "PWD" folder
      modifyProcess ({ · with folder := folder })
      setStatus 0
      if shown then printAll (folder ++ ['\n'])
  match args with
  | [] =>
    match p.value? "HOME" with
    | some home => go home false
    | none => if p.extended then fault (charsOf "HOME not set") 1 else setStatus 0
  | ['-'] :: _ => go ((p.value? "OLDPWD").getD p.folder) true
  | name :: _ => go name false

def signalNames : List String :=
  ["EXIT", "HUP", "INT", "QUIT", "ILL", "TRAP", "ABRT", "BUS", "FPE", "KILL", "USR1", "SEGV", "USR2",
    "PIPE", "ALRM", "TERM", "STKFLT", "CHLD", "CONT", "STOP", "TSTP", "TTIN", "TTOU", "URG", "XCPU",
    "XFSZ", "VTALRM", "PROF", "WINCH", "IO", "PWR", "SYS"]

def signalName? (s : Chars) : Option String :=
  match nat? s with
  | some n => signalNames[n]?
  | none =>
    let name := (String.ofList (s.map Char.toUpper))
    let name := if name.startsWith "SIG" then String.ofList (name.toList.drop 3) else name
    if signalNames.contains name ∨ ["ERR", "DEBUG", "RETURN"].contains name then some name else none

def trap : Builtin := fun _ args => do
  let p ← process
  let args := if args.head? = some ['-', '-'] then args.drop 1 else args
  setStatus 0
  match args with
  | [] =>
    let order (name : String) : Nat := signalNames.idxOf name
    let isSignal (name : String) : Bool := name ≠ "EXIT" && signalNames.contains name
    let traps := p.traps.mergeSort fun a b => order a.1 ≤ order b.1
    printAll (traps.flatMap fun (name, action) =>
      let shown := if p.extended && isSignal name then "SIG" ++ name else name
      charsOf "trap -- " ++ (if p.extended then requotedText action else quotedText action) ++
        charsOf (" " ++ shown) ++ ['\n'])
  | action :: signals =>
    let (action, signals) : Option Chars × List Chars :=
      if signals.isEmpty then (none, [action])
      else if (nat? action).isSome then (none, action :: signals)
      else (if action = ['-'] then none else some action, signals)
    for signal in signals do
      match signalName? signal with
      | some name =>
        modifyProcess fun p =>
          let others := p.traps.filter (·.1 != name)
          { p with traps := (action.map fun a => (name, a)).toList ++ others }
      | none =>
        if p.extended then complain (signal ++ charsOf ": invalid signal specification")
        else
          let _ ← write 2 (charsOf "trap: " ++ signal ++ charsOf ": bad trap\n")
        setStatus 1

def signalList (extended : Bool) : Chars :=
  charsOf ((if extended then "" else "0\n") ++ "\n".intercalate (signalNames.drop 1) ++ "\n")

/-- The signal that the first argument of `kill` names, and the arguments behind it. -/
def killSignal (extended : Bool) : List Chars → Except Chars (String × List Chars)
  | ['-', 's'] :: name :: rest | ['-', 'n'] :: name :: rest =>
    match signalName? name with
    | some signal => .ok (signal, rest)
    | none => .error (if extended then name ++ charsOf ": invalid signal specification"
        else charsOf "invalid signal number or name: " ++ name)
  | ['-', '-'] :: rest => .ok ("TERM", rest)
  | ('-' :: c :: name) :: rest =>
    match signalName? (c :: name) with
    | some signal => .ok (signal, rest)
    | none => .error (if extended then c :: name ++ charsOf ": invalid signal specification"
        else charsOf "Illegal option -" ++ [c])
  | args => .ok ("TERM", args)

def raise (calls : Calls) (name : String) : Act Unit := do
  let p ← process
  match p.traps.lookup name with
  | some action =>
    let status := p.status
    calls.script action p.line
    setStatus status
  | none =>
    if !(["EXIT", "CHLD", "CONT", "URG", "WINCH"].contains name) then throw (.killed name)

/-- Send a signal. The only process that can be reached is the shell itself. -/
def kill : Builtin := fun calls args => do
  let p ← process
  setStatus 0
  match args with
  | [] =>
    if p.extended then
      let _ ← write 2 (charsOf ("kill: usage: kill [-s sigspec | -n signum | -sigspec] pid | " ++
        "jobspec ... or kill -l [sigspec]\n"))
      setStatus 2
    else fault (charsOf
      "Usage: kill [-s sigspec | -signum | -sigspec] [pid | job]... or\nkill -l [exitstatus]")
  | ['-', 'l'] :: rest =>
    match rest.head?.bind signalName? with
    | some name => printAll (charsOf name ++ ['\n'])
    | none => printAll (signalList p.extended)
  | args =>
    match killSignal p.extended args with
    | .error reason => fault reason (if p.extended then 1 else 2)
    | .ok (name, pids) =>
      for pid in pids do
        match nat? pid with
        | none =>
          if p.extended then
            complain (pid ++ charsOf ": arguments must be process or job IDs")
            setStatus 1
          else fault (charsOf "Illegal number: " ++ pid)
        | some n =>
          if n = p.number then raise calls name
          else
            complain (if p.extended then charsOf "(" ++ pid ++ charsOf ") - No such process"
              else charsOf "No such process\n")
            setStatus 1

def wait : Builtin := fun _ args => do
  let p ← process
  match args.getLast? with
  | none => setStatus 0
  | some pid => setStatus (((nat? pid).bind fun n => p.jobs.lookup n).getD 127)

def let_ : Builtin := fun _ args => do
  for arg in args do
    let n ← evalFormula arg
    setStatus (if n = 0 then 1 else 0)

def succeed : Builtin := fun _ _ => setStatus 0

def fail : Builtin := fun _ _ => setStatus 1

def times : Builtin := fun _ _ =>
  printAll (charsOf "0m0.000000s 0m0.000000s\n0m0.000000s 0m0.000000s\n")

def ulimit : Builtin := fun _ _ => printAll (charsOf "unlimited\n")

/-- The built-in commands whose faults end the shell, and whose assignments stay. -/
def special : List (String × Builtin) :=
  [(".", dot), (":", succeed), ("break", leaveLoop .breakLoop), ("continue", leaveLoop .nextTurn),
    ("eval", eval), ("exec", exec), ("exit", exit), ("export", export_), ("local", local_),
    ("readonly", readonly),
    ("return", return_), ("set", set_), ("shift", shift), ("times", times), ("trap", trap),
    ("unset", unset)]

/-- The names of built-in commands that no program is looked up for. -/
def isBuiltinName (name : String) : Bool :=
  ["[", "alias", "bg", "cd", "chdir", "command", "echo", "false", "fg", "getopts", "hash", "jobs",
    "kill", "printf", "pwd", "read", "test", "true", "type", "ulimit", "umask", "unalias",
    "wait"].contains name || (special.lookup name).isSome

def regular : List (String × Builtin) :=
  [("[", bracket), ("alias", alias_), ("bg", succeed), ("cd", cd), ("chdir", cd), ("echo", echo),
    ("false", fail), ("fg", succeed), ("getopts", getopts), ("hash", hash isBuiltinName), ("jobs", succeed),
    ("kill", kill), ("printf", printf), ("pwd", pwd), ("read", read),
    ("test", test), ("true", succeed), ("ulimit", ulimit), ("umask", umask), ("unalias", unalias),
    ("wait", wait)]

def additional : List (String × Builtin) :=
  [("declare", declare), ("dirs", dirs), ("disown", succeed), ("enable", succeed), ("let", let_),
    ("mapfile", mapfile), ("popd", popd cd), ("pushd", pushd cd), ("readarray", mapfile),
    ("shopt", shopt), ("source", dot),
    ("typeset", declare)]

def find? (extended : Bool) (name : String) : Option (Bool × Builtin) :=
  match special.lookup name with
  | some b => some (!extended, b)
  | none =>
    match regular.lookup name with
    | some b => some (false, b)
    | none => if extended then (additional.lookup name).map fun b => (false, b) else none

def builtinKind? (extended : Bool) (name : String) : Option Bool :=
  if name = "command" ∨ name = "type" ∨ (extended ∧ name = "builtin") then some false
  else (find? extended name).map (·.1)

def reserved : List String :=
  ["!", "case", "do", "done", "elif", "else", "esac", "fi", "for", "if", "in", "then", "until",
    "while", "\x7b", "\x7d"]

def extendedReserved : List String :=
  reserved ++ ["[[", "]]", "coproc", "function", "select", "time"]

def describe (verbose : Bool) (name : Chars) : Act Unit := do
  let p ← process
  let named := textOf name
  let show_ (short long : Chars) : Act Unit :=
    printAll ((if verbose then name ++ charsOf " is " ++ long else short) ++ ['\n'])
  let reserved := if p.extended then extendedReserved else reserved
  if reserved.contains named then show_ name (charsOf "a shell keyword")
  else if let some text := p.aliases.lookup named then
    if verbose then show_ name (charsOf "an alias for " ++ text)
    else printAll (charsOf "alias " ++ aliasLine false named text)
  else if (p.functions.lookup named).isSome then
    show_ name (charsOf (if p.extended then "a function" else "a shell function"))
  else match builtinKind? p.extended named with
    | some isSpecial =>
      show_ name (charsOf (if isSpecial then "a special shell builtin" else "a shell builtin"))
    | none =>
      match (← rememberedPrograms).lookup named, ← programPath? name with
      | some path, _ =>
        show_ path (if p.extended then path else charsOf "a tracked alias for " ++ path)
      | none, some path =>
        let _ ← rememberProgram name
        show_ path path
      | none, none =>
        if verbose then
          if p.extended then complain (name ++ charsOf ": not found")
          else printAll (name ++ charsOf ": not found\n")
        setStatus (if p.extended then 1 else 127)

def kindOf (name : Chars) : Act (Option String) := do
  let p ← process
  let named := textOf name
  if extendedReserved.contains named then return some "keyword"
  else if (p.functions.lookup named).isSome then return some "function"
  else if (builtinKind? p.extended named).isSome then return some "builtin"
  else return (← programPath? name).map fun _ => "file"

def typeKinds (paths : Bool) (args : List Chars) : Act Unit := do
  setStatus 0
  for arg in args do
    match ← kindOf arg with
    | some "file" =>
      let path := (← programPath? arg).getD []
      let _ ← write 1 ((if paths then path else charsOf "file") ++ ['\n'])
    | some kind => if !paths then let _ ← write 1 (charsOf kind ++ ['\n'])
    | none => setStatus 1

def type : Builtin := fun _ args => do
  let (options, args) := if (← process).extended then leadingOptions args else ([], args)
  if options.contains 't' then return ← typeKinds false args
  if options.contains 'p' ∨ options.contains 'P' then return ← typeKinds true args
  let mut worst := 0
  for arg in args do
    describe (!options.contains 'p') arg
    if (← status) ≠ 0 then worst := ← status
  setStatus worst

end Builtin

end CompileFlags.Shell
