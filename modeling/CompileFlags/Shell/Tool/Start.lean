import CompileFlags.Shell.Builtin.Control
import CompileFlags.Shell.Tool.Values
import CompileFlags.Shell.Words

set_option autoImplicit false

namespace CompileFlags.Shell.Tool

/-- Start a program and take its status over; one that does not start is reported. -/
def become (calls : Calls) (argv : List Chars) : Act Unit := do
  match ← calls.start argv with
  | .ok status => setStatus status
  | .error cause =>
    let name := argv.headD []
    say (quoted name ++ charsOf (": " ++ cause.reason))
    if ' ' ∈ name ∧ cause = .notFound ∧ (textOf (← process).name).endsWith "env" then
      say (charsOf "use -[v]S to pass options in shebang lines")
    setStatus (if cause = .notFound then 127 else 126)

def splitArguments : List Chars → List Chars
  | [] => []
  | arg :: rest =>
    let split? : Option (Chars × List Chars) := match arg with
      | ['-', 'S'] => (rest.head?).map fun s => (s, rest.drop 1)
      | '-' :: 'S' :: s => some (s, rest)
      | ['-', 'v', 'S'] => (rest.head?).map fun s => (s, rest.drop 1)
      | '-' :: 'v' :: 'S' :: s => some (s, rest)
      | arg =>
        if (charsOf "--split-string=").isPrefixOf arg then some (arg.drop 15, rest) else none
    match split? with
    | some (s, rest) => words s ++ rest
    | none => arg :: rest

def isVariableSetting (arg : Chars) : Bool :=
  '=' ∈ arg && arg.head? != some '='

def env : Tool := fun calls args =>
  withOptions {
    flags := "i0v"
    valued := "uC"
    long := [("ignore-environment", 'i'), ("unset", 'u'), ("chdir", 'C')]
    permutes := false }
    (let args := splitArguments args
     if args.head? = some ['-'] then ['-', 'i'] :: args.drop 1 else args) (fun g => do
    if g.has 'i' then
      modifyProcess fun p => { p with vars := p.vars.filter fun (_, v) => !v.exported }
    for name in g.values 'u' do modifyProcess (·.withoutVariable (textOf name))
    match g.value? 'C' with
    | some dir =>
      match (← world).changeDir (pathOfChars dir) with
      | .ok w => setWorld w
      | .error cause =>
        fail (charsOf "cannot change directory to " ++ quoted dir ++
          charsOf (": " ++ cause.reason)) 125
    | none => pure ()
    if (← status) = 0 then
      let settings := g.operands.takeWhile isVariableSetting
      for setting in settings do
        let name := setting.takeWhile (· != '=')
        modifyProcess (·.withVariable (textOf name)
          { value := .text (setting.drop (name.length + 1)), exported := true })
      match g.operands.drop settings.length with
      | [] =>
        for (name, value) in (← process).environment.reverse do
          putLine (charsOf (name ++ "=") ++ value)
      | argv => become calls argv) 125

/-- The items of an input: blanks separate them, and quotes and backslashes protect blanks. -/
def inputItems (s : Chars) : List Chars :=
  words s

def groupsOf {α : Type} (size : Nat) : Nat → List α → List (List α)
  | 0, _ => []
  | _, [] => []
  | n + 1, xs => xs.take size :: groupsOf size n (xs.drop size)

def substituted (mark new : Chars) : Nat → Chars → Chars
  | 0, s => s
  | n + 1, s =>
    if !mark.isEmpty ∧ mark.isPrefixOf s then new ++ substituted mark new n (s.drop mark.length)
    else match s with
      | c :: rest => c :: substituted mark new n rest
      | [] => []

def xargs : Tool := fun calls args =>
  withOptions {
    flags := "0rtpx"
    valued := "nILPdsE"
    long := [("null", '0'), ("no-run-if-empty", 'r'), ("max-args", 'n'), ("delimiter", 'd'),
      ("verbose", 't')]
    permutes := false } args fun g => do
    let command := if g.operands.isEmpty then [charsOf "echo"] else g.operands
    let input ← readAll 0
    let separated (c : Char) : List Chars :=
      let parts := Text.splitOn c input
      if parts.getLast? = some [] then parts.dropLast else parts
    let items := if g.has '0' then separated '\x00'
      else match g.value? 'd' with
        | some d => separated ((unescape .basicFormat d).1.headD '\n')
        | none =>
          if g.has 'I' ∨ g.has 'L' then
            ((separated '\n').map fun line => line.dropWhile isBlank).filter (!·.isEmpty)
          else inputItems input
    let calls' : List (List Chars) := match g.value? 'I' with
      | some mark => items.map fun item =>
          command.map fun w => substituted mark item (w.length + 1) w
      | none =>
        let items := if g.has 'L' then items.flatMap words else items
        let groups := match ((g.value? 'n').orElse fun _ => g.value? 'L').bind nat? with
          | some n => groupsOf (max n 1) (items.length + 1) items
          | none => if items.isEmpty then [] else [items]
        let groups := if groups.isEmpty ∧ !g.has 'r' then [[]] else groups
        groups.map (command ++ ·)
    let own ← newStream .nowhere
    let mut worst := 0
    for argv in calls' do
      if g.has 't' then
        let _ ← write 2 ([' '].intercalate argv ++ ['\n'])
      let fd ← descriptor? 0
      setDescriptor 0 (some own)
      match ← calls.start argv with
      | .ok 0 => pure ()
      | .ok status => worst := if status = 255 then 124 else max worst 123
      | .error cause =>
        say (argv.headD [] ++ charsOf (": " ++ cause.reason))
        worst := if cause = .notFound then 127 else 126
      setDescriptor 0 fd
    setStatus worst

def timeout : Tool := fun calls args =>
  withOptions {
    flags := "v"
    valued := "ks"
    long := [("kill-after", 'k'), ("signal", 's'), ("foreground", 'v'), ("preserve-status", 'v')]
    permutes := false } args (fun g => do
    match g.operands with
    | _ :: argv@(_ :: _) => become calls argv
    | _ =>
      let _ ← write 2 (charsOf "Try '" ++ (← process).name ++
        charsOf " --help' for more information.\n")
      setStatus 125) 125

def passing (valued : String) : Tool := fun calls args =>
  withOptions { flags := "fcwq", valued := valued, permutes := false } args (fun g => do
    if g.operands.isEmpty then setStatus 0 else become calls g.operands) 125

def which : Tool := fun _ args =>
  withOptions { flags := "as" } args fun g => do
    if g.operands.isEmpty then setStatus 1
    let w ← world
    let dirs ← programFolders
    for name in g.operands do
      let paths := if '/' ∈ name then [name]
        else dirs.map fun dir => charsOf (dir.child (textOf name)).text
      match paths.filter fun path => w.isFile ⟨textOf path⟩ && Test.allows Disk.Rights.execute w ⟨textOf path⟩ with
      | [] => setStatus 1
      | path :: others =>
        if !g.has 's' then
          for path in if g.has 'a' then path :: others else [path] do putLine path

end CompileFlags.Shell.Tool
