import CompileFlags.Shell.Regex
import CompileFlags.Shell.Simple
import CompileFlags.Shell.Tool

set_option autoImplicit false

/-!
# Running commands

Compound commands, functions and whole scripts. Each command runs its parts one level deeper, and a
machine has a fixed number of levels; a script that goes deeper is killed. Loops have a fixed number
of turns.
-/

namespace CompileFlags.Shell

open Disk

def levelLimit : Nat := 2000

def turnLimit : Nat := 1000000

def noCalls : Calls where
  run _ := throw .exhausted
  glyphs _ _ := throw .exhausted
  script _ _ := throw .exhausted
  start _ := throw .exhausted

def subshell (calls : Calls) (change : Process → Process) (body : Act Unit) : Act Nat :=
  inChild (fun p => change { p with traps := [] }) (finishing calls body)

def turn (body : Act Unit) : Act Bool := do
  let loops := (← process).loops
  match ← attempt (between ({ · with loops := loops + 1 }) ({ · with loops := loops }) body) with
  | .ok () | .error (.nextTurn 0) | .error (.nextTurn 1) => return true
  | .error (.breakLoop 0) | .error (.breakLoop 1) => return false
  | .error (.nextTurn (n + 1)) => throw (.nextTurn n)
  | .error (.breakLoop (n + 1)) => throw (.breakLoop n)
  | .error signal => throw signal

/-- Run a test and a body by turns, as long as the test does not fail, or does. The status is that of
the last turn, or else the one given. -/
def loopTurns (calls : Calls) (until_ : Bool) (test body : Command) : Nat → Nat → Act Unit
  | 0, _ => throw .exhausted
  | n + 1, last => do
    let goesOn ← turn do
      testing (calls.run test)
      let failed := (← status) ≠ 0
      if failed = until_ then calls.run body
      else
        setStatus last
        throw (.breakLoop 1)
    if goesOn then loopTurns calls until_ test body n (← status)

def eachTurn (calls : Calls) (name : String) (body : Command) (head : List Chars) :
    List Chars → Act Unit
  | [] => return
  | value :: rest => do
    traceExtended head
    setVariable name value
    if ← turn (calls.run body) then eachTurn calls name body head rest

def menuTurns (calls : Calls) (name : String) (items : List Chars) (body : Command) :
    Nat → Act Unit
  | 0 => throw .exhausted
  | n + 1 => do
    let lines := ((List.range items.length).zip items).flatMap fun (i, item) =>
      natText (i + 1) ++ [')', ' '] ++ item ++ ['\n']
    let prompt := ((← process).value? "PS3").getD (charsOf "#? ")
    let _ ← write 2 (lines ++ prompt)
    let (line, taken, complete) := Builtin.readLine (← pendingInput 0)
    consume 0 taken
    if !complete then
      let _ ← write 1 ['\n']
      setStatus 1
    else
      setVariable "REPLY" line
      let choice := (nat? line).bind fun k => if k = 0 then none else items[k - 1]?
      setVariable name (choice.getD [])
      if ← turn (calls.run body) then menuTurns calls name items body n

def countedTurns (calls : Calls) (test step : Word) (body : Command) : Nat → Nat → Act Unit
  | 0, _ => throw .exhausted
  | n + 1, last => do
    let text ← expandText calls test
    let isDone ← if text.all isBlank then pure false else return_ ((← evalFormula text) = 0)
    if isDone then setStatus last
    else if ← turn (calls.run body) then
      let last ← status
      let _ ← evalFormula (← expandText calls step)
      countedTurns calls test step body n last
where
  return_ (b : Bool) : Act Bool := pure b

/-- Run the stages of a pipeline one after the other, each on what the one before it has printed.
The answer is the status of each. -/
def stages (calls : Calls) (input : Option Nat) : List Command → Act (List Nat)
  | [] => return []
  | c :: rest => do
    let output ← if rest.isEmpty then pure none else some <$> newStream (.collected [])
    let status ← subshell calls (fun p =>
      let ds := match input with
        | some position => withDescriptor 0 (some position) p.descriptors
        | none => p.descriptors
      { p with descriptors := match output with
          | some position => withDescriptor 1 (some position) ds
          | none => ds }) (calls.run c)
    match output with
    | none => return [status]
    | some position =>
      let next ← newStream (.held (← collectedText position))
      return status :: (← stages calls (some next) rest)

/-- Whether a word as a pattern matches a text, in any case where that is switched on. Conditions
always know groups. -/
def fits (calls : Calls) (groups : Bool) (w : Word) (s : Chars) : Act Bool := do
  let p ← process
  let style := { p.patternStyle with groups := groups || p.patternStyle.groups }
  let marked := Glyph.marked (← calls.glyphs false w)
  if p.hasSwitch "nocasematch" then
    let lowered := marked.map fun (c, quoted) => (c.toLower, quoted)
    return (Pattern.ofMarked style lowered).isMatch (s.map Char.toLower)
  else return (Pattern.ofMarked style marked).isMatch s

def fitsAny (calls : Calls) (s : Chars) : List Word → Act Bool
  | [] => return false
  | w :: ws => do if ← fits calls false w s then return true else fitsAny calls s ws

def selectCase (calls : Calls) (subject : Chars) (taken : Bool) :
    List (List Word × Command × CaseEnd) → Act Unit
  | [] => if taken then return else setStatus 0
  | (patterns, body, ending) :: rest => do
    if ← (if taken then pure true else fitsAny calls subject patterns) then
      match body with
      | .nothing => setStatus 0
      | body => calls.run body
      match ending with
      | .stop => return
      | .fallThrough => selectCase calls subject true rest
      | .testNext =>
        let status ← status
        let others ← rest.filterM fun (patterns, _) => fitsAny calls subject patterns
        if others.isEmpty then setStatus status else selectCase calls subject false rest
    else selectCase calls subject false rest

def setMatches (subject : Regex.Subject) (first : Nat) (spot : Regex.Spot) : Act Unit := do
  let spot := { spot with groups := (0, first, spot.position) :: spot.groups }
  let last := (spot.groups.map (·.1)).foldl max 0
  let items := (List.range (last + 1)).map fun n => (n, (spot.groupText subject n).getD [])
  changeVariable "BASH_REMATCH" ({ · with value := .list items })

def regexText (gs : List Pattern.Marked) : Chars :=
  gs.flatMap fun (c, quoted) =>
    if quoted && !c.isAlphanum && c != '\n' then ['\\', c] else [c]

def holds (calls : Calls) : Condition → Act Bool
  | .word w => do return !(← expandText calls w).isEmpty
  | .negation c => do return !(← holds calls c)
  | .both a b => do if ← holds calls a then holds calls b else return false
  | .either a b => do if ← holds calls a then return true else holds calls b
  | .unary op w => do
    let s ← expandText calls w
    traceExtended [charsOf "[[", charsOf op, shownWord true s, charsOf "]]"]
    if op = "-v" then return ((← process).value? (textOf s)).isSome
    else return Test.property (← world) op s
  | .binary op left right => do
    let a ← expandText calls left
    if (← process).hasOption 'x' then
      traceExtended [charsOf "[[", shownWord true a, charsOf op, ← expandText calls right,
        charsOf "]]"]
    match op with
    | "=" | "==" => fits calls true right a
    | "!=" => return !(← fits calls true right a)
    | "=~" =>
      match Regex.parse? true (regexText (Glyph.marked (← calls.glyphs false right))) with
      | none => fault (charsOf "syntax error in conditional expression")
      | some r =>
        let subject : Regex.Subject := { text := a.toArray }
        match r.search? subject 0 with
        | some (first, spot) =>
          setMatches subject first spot
          return true
        | none => return false
    | op =>
      let b ← expandText calls right
      if ["-eq", "-ne", "-lt", "-le", "-gt", "-ge"].contains op then
        let x := intText (← evalFormula a)
        let y := intText (← evalFormula b)
        match Test.comparison (← world) true op x y with
        | .ok answer => return answer
        | .error reason => fault reason
      else match Test.comparison (← world) true op a b with
        | .ok answer => return answer
        | .error reason => fault reason

def runWith (calls : Calls) : Command → Act Unit
  | .nothing => return
  | .simple line assignments words redirects => simple calls line assignments words redirects
  | .redirected _ body [] => calls.run body
  | .redirected line body redirects => do
    if line ≠ 0 then modifyProcess ({ · with line := line })
    keepingDescriptors do
      if ← applyRedirects calls redirects then calls.run body else checkStatus calls
  | .subshell line body => do
    modifyProcess ({ · with line := line })
    setStatus (← subshell calls id (calls.run body))
    checkStatus calls
  | .pipe parts => do
    let statuses ← stages calls none parts
    modifyProcess ({ · with stageStatuses := statuses })
    let last := statuses.getLast?.getD 0
    let failed := (statuses.reverse.find? (· ≠ 0)).getD 0
    setStatus (if (← process).hasOption 'P' then failed else last)
    checkStatus calls
  | .both a b => do
    testing (calls.run a)
    if (← status) = 0 then calls.run b
  | .either a b => do
    testing (calls.run a)
    if (← status) ≠ 0 then calls.run b
  | .inOrder a b => do
    calls.run a
    calls.run b
  | .background body => do
    let input ← newStream .nowhere
    let status ← subshell calls (fun p =>
      { p with descriptors := withDescriptor 0 (some input) p.descriptors }) (calls.run body)
    let serial := (← get).serial
    modify fun m => { m with serial := serial + 1 }
    modifyProcess fun p =>
      { p with jobs := (processNumber + serial, status) :: p.jobs, status := 0 }
  | .negation body => do
    testing (calls.run body)
    setStatus (if (← status) = 0 then 1 else 0)
  | .choice test yes no => do
    testing (calls.run test)
    if (← status) = 0 then calls.run yes
    else match no with
      | .nothing => setStatus 0
      | no => calls.run no
  | .loop until_ test body => loopTurns calls until_ test body turnLimit 0
  | .each line name items body => do
    modifyProcess ({ · with line := line })
    let values ← expandAll calls items
    let p ← process
    if p.extended ∧ !isName name.toList then
      complain (charsOf ("\x60" ++ name ++ "': not a valid identifier"))
      setStatus 1
    else
      if values.isEmpty then setStatus 0
      eachTurn calls name body ([charsOf "for", charsOf name, charsOf "in"] ++ values) values
  | .choose line name items body => do
    modifyProcess ({ · with line := line })
    let values ← expandAll calls items
    if values.isEmpty then setStatus 0 else menuTurns calls name values body turnLimit
  | .counted line start test step body => do
    modifyProcess ({ · with line := line })
    let _ ← evalFormula (← expandText calls start)
    countedTurns calls test step body turnLimit 0
  | .select line subject cases => do
    modifyProcess ({ · with line := line })
    let subject ← expandText calls subject
    traceExtended [charsOf "case", subject, charsOf "in"]
    selectCase calls subject false cases
  | .define name body => do
    modifyProcess fun p =>
      { p with functions := (name, body) :: p.functions.filter (·.1 != name), status := 0 }
  | .condition line c => do
    modifyProcess ({ · with line := line })
    setStatus (if ← holds calls c then 0 else 1)
    checkStatus calls
  | .sum line w => do
    modifyProcess ({ · with line := line })
    let text ← expandText calls w
    traceExtended [charsOf "((", text, charsOf "))"]
    setStatus (if (← evalFormula text) = 0 then 1 else 0)
    checkStatus calls

def refused (refusal : Grammar.SyntaxFault) : Act Unit := do
  let p ← process
  modifyProcess ({ · with line := refusal.line })
  if p.extended then
    if p.speaker.isSome then
      modifyProcess fun p =>
        { p with speaker := none, name := p.name ++ charsOf ": eval" }
    complain (charsOf refusal.reason)
    if !refusal.shown.isEmpty then
      complain (['\x60'] ++ refusal.shown ++ ['\x27'])
    modifyProcess ({ · with name := p.name, speaker := p.speaker })
    setStatus 2
    throw .fault
  else fault (charsOf refusal.reason)

def runScript (calls : Calls) : Nat → Grammar.Scan → Act Unit
  | 0, _ => return
  | n + 1, scan => do
    let m ← get
    let aliases := if m.process.extended ∧ !m.process.hasSwitch "expand_aliases" then []
      else m.process.aliases
    let groups := m.process.hasSwitch "extglob"
    match Grammar.nextLine?.run { scan with texts := m.texts, aliases, groups } with
    | .error refusal => refused refusal
    | .ok (found, after) =>
      modify ({ · with texts := after.texts })
      if m.process.hasOption 'v' then
        let _ ← write 2 (scan.rest.take (scan.rest.length - after.rest.length))
      match found with
      | none => return
      | some c =>
        calls.run c
        runScript calls n after

def scriptWith (calls : Calls) (text : Chars) (line : Nat) : Act Unit := do
  let p ← process
  runScript calls (text.length + 1)
    { rest := text
      line := line
      extended := p.extended
      pending := []
      texts := #[]
      lineStart := text }

/-- Run a command, unless commands are only read. -/
def runUnlessIdle (calls : Calls) (c : Command) : Act Unit := do
  if !(← process).hasOption 'n' then runWith calls c

def signalWords : List (String × String) :=
  [("HUP", "Hangup"), ("QUIT", "Quit"), ("ILL", "Illegal instruction"),
    ("TRAP", "Trace/breakpoint trap"), ("ABRT", "Aborted"), ("BUS", "Bus error"),
    ("FPE", "Floating point exception"), ("KILL", "Killed"), ("USR1", "User defined signal 1"),
    ("SEGV", "Segmentation fault"), ("USR2", "User defined signal 2"), ("ALRM", "Alarm clock"),
    ("TERM", "Terminated")]

def startWith (calls : Calls) (argv : List Chars) : Act (Except IoFault Nat) := do
  let w ← world
  let name := textOf (argv.headD [])
  let dirs := match ← variableValue? "PATH" with
    | some path => (Text.splitOn ':' path).map fun dir => ⟨textOf dir⟩
    | none => w.programDirs
  match Image.findOrScript w (← process).extended dirs name argv with
  | .error cause => return .error cause
  | .ok (tool, argv) =>
    match ← attempt (inChild id (Tool.run calls tool argv)) with
    | .ok status => return .ok status
    | .error (.killed name) =>
      let word := (signalWords.lookup name).getD ""
      if !word.isEmpty ∧ !(← process).extended then let _ ← write 2 (charsOf (word ++ "\n"))
      return .ok (128 + Builtin.signalNames.idxOf name)
    | .error signal => throw signal

def levels : Nat → Calls
  | 0 => noCalls
  | n + 1 => {
    run := fun c => runUnlessIdle (levels n) c
    glyphs := fun splits w => wordGlyphs (levels n) splits w
    script := fun text line => scriptWith (levels n) text line
    start := fun argv => startWith (levels n) argv }

end CompileFlags.Shell
