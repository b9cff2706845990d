import CompileFlags.Shell.Builtin.Control
import CompileFlags.Shell.Grammar.Program

set_option autoImplicit false

namespace CompileFlags.Shell

def checkStatus (calls : Calls) : Act Unit := do
  let p ← process
  if !p.tested ∧ p.status ≠ 0 then
    match p.traps.lookup "ERR" with
    | some action =>
      if p.hidden.isEmpty then
        modifyProcess ({ · with traps := p.traps.filter (·.1 != "ERR") })
        calls.script action p.line
        modifyProcess ({ · with traps := p.traps, status := p.status })
    | none => pure ()
    if p.hasOption 'e' then throw .exit

def between {α : Type} (before after : Process → Process) (body : Act α) : Act α := do
  modifyProcess before
  let result ← attempt body
  modifyProcess after
  match result with
  | .ok a => return a
  | .error signal => throw signal

def testing (body : Act Unit) : Act Unit := do
  let tested := (← process).tested
  between ({ · with tested := true }) ({ · with tested := tested }) body

def assignText (calls : Calls) (name : String) (item : Option Word) (more : Bool) (s : Chars) :
    Act Unit := do
  let old ← findParameter calls name item
  let v := ((← process).variableNamed? name).getD {}
  setParameter calls name item (← convertedText v old.values.flatten more s)

def splitKey (w : Word) : Option (Word × Word) :=
  match w with
  | .text ('[' :: rest) false :: others =>
    match Grammar.splitWord ']' (.text rest false :: others) with
    | some (key, .text ('=' :: value) false :: behind) =>
      some (key, if value.isEmpty then behind else .text value false :: behind)
    | _ => none
  | _ => none

def assign (calls : Calls) : Assignment → Act Unit
  | .text name item more value => do
    assignText calls name item more (← expandText calls (withHomes (← process) value))
  | .list name more values => do
    let v := ((← process).variableNamed? name).getD {}
    match v.value with
    | .table old =>
      let mut table := if more then old else []
      for w in values do
        match splitKey w with
        | some (key, value) =>
          table := setNamed (← expandText calls key) (← expandText calls value) table
        | none => pure ()
      changeVariable name ({ · with value := .table table })
      return
    | _ => pure ()
    let mut items := []
    if more then items := itemsOf v
    for w in values do
      let start := (items.map (·.1 + 1)).foldl max 0
      let found ← expandFields calls w
      let found := ((List.range found.length).map (· + start)).zip found
      match splitKey w with
      | some (key, value) =>
        let n ← evalFormula (← expandText calls key)
        items := setItem n.toNat (← expandText calls value) items
      | none => items := items ++ found
    changeVariable name ({ · with value := .list items })

def Assignment.name : Assignment → String
  | .text name .. | .list name .. => name

def shownAssignment (name : String) (s : Chars) : Chars :=
  charsOf (name ++ "=") ++ s

def shownWord (extended : Bool) (s : Chars) : Chars :=
  let isSafe := s.all fun c => c.isAlphanum || "_-+=./:,@%^~#".toList.contains c
  if extended && (s.isEmpty || !isSafe) then quotedText s else s

/-- Show a command before it runs, with the option `x`. The extended shell shows how deep scripts lie
in each other. -/
def trace (errors : Option Nat) (words : List Chars) : Act Unit := do
  let p ← process
  if p.hasOption 'x' then
    match errors with
    | some position =>
      let start := (p.value? "PS4").getD ['+', ' ']
      let start := if p.extended then List.replicate p.nesting (start.headD '+') ++ start else start
      let _ ← writeStream position (start ++ [' '].intercalate words ++ ['\n'])
    | none => pure ()

def traceExtended (words : List Chars) : Act Unit := do
  let p ← process
  if p.extended then trace (p.descriptors.lookup 2) words

def withAssignments (calls : Calls) (assignments : List Assignment) (body : Act Unit) : Act Unit := do
  let names := assignments.map Assignment.name
  let old := (← process)
  let restore (p : Process) : Process := names.foldl (fun p name =>
    match old.variableNamed? name with
    | some v => p.withVariable name v
    | none => p.withoutVariable name) p
  between id restore do
    for a in assignments do
      assign calls a
      modifyProcess fun p =>
        match p.variableNamed? a.name with
        | some v => p.withVariable a.name { v with exported := true }
        | none => p
    body

/-- Call a function. Its arguments are those of the script meanwhile, and the variables that it
hides come back. -/
def callFunction (calls : Calls) (name : String) (body : Command) (args : List Chars) : Act Unit := do
  let p ← process
  let restore (q : Process) : Process :=
    let q := (q.hidden.headD []).foldl (fun q (name, old) =>
      match old with
      | some v => q.withVariable name v
      | none => q.withoutVariable name) q
    { q with
      args := p.args
      hidden := p.hidden
      loops := p.loops
      optionOffset := p.optionOffset
      callers := p.callers }
  between
    (fun p => { p with
      args := args
      hidden := [] :: p.hidden
      loops := 0
      callers := name :: p.callers }) restore
    (Builtin.leavable (calls.run body))

def callBuiltin (calls : Calls) (name : String) (isSpecial : Bool) (b : Builtin)
    (args : List Chars) : Act Unit := do
  let speaker := (← process).speaker
  let result ← attempt (between ({ · with speaker := some name }) ({ · with speaker := speaker })
    (b calls args))
  match result with
  | .ok () => return
  | .error .fault => if isSpecial then throw .fault
  | .error signal => throw signal

/-- Run a command by its name, as a function or not; the number bounds how many words can stand
before the name. -/
def runNamed (calls : Calls) : Nat → Bool → Chars → List Chars → Act Unit
  | 0, _, _, _ => return
  | n + 1, functions, name, args => do
    let p ← process
    let named := textOf name
    match if functions then p.functions.lookup named else none with
    | some body => callFunction calls named body args
    | none =>
      if named = "command" then
        let (options, rest) := leadingOptions args
        if options.contains 'v' ∨ options.contains 'V' then
          callBuiltin calls named false (fun _ args => do
            for arg in args.take (if p.extended then args.length else 1) do
              Builtin.describe (options.contains 'V') arg) rest
        else match rest with
          | [] => setStatus 0
          | name :: args => runNamed calls n false name args
      else if named = "builtin" ∧ p.extended then
        match args with
        | [] => setStatus 0
        | name :: args => runNamed calls n false name args
      else if named = "type" then callBuiltin calls named false Builtin.type args
      else match Builtin.find? p.extended named with
        | some (isSpecial, b) => callBuiltin calls named isSpecial b args
        | none => launch calls (name :: args)

def withHomesBehindName (p : Process) (w : Word) : Word :=
  match w with
  | .text s false :: rest =>
    let name := s.takeWhile (· != '=')
    let value := s.drop (name.length + 1)
    .text (name ++ ['=']) false ::
      withHomes p (if value.isEmpty then rest else .text value false :: rest)
  | w => w

def commandFields (calls : Calls) (words : List Word) : Act (List Chars) := do
  if Grammar.declares words.head? then
    let mut found := []
    for w in words do
      let isAssignment := match w with
        | .text s false :: _ => (Grammar.assigned? false s).isSome
        | _ => false
      if isAssignment then
        found := found ++ [← expandText calls (withHomesBehindName (← process) w)]
      else found := found ++ (← expandFields calls w)
    return found
  else expandAll calls words

def simple (calls : Calls) (line : Nat) (assignments : List Assignment) (words : List Word)
    (redirects : List Redirect) : Act Unit := do
  modifyProcess ({ · with line := line, outputStatus := none })
  let argv ← commandFields calls words
  let p ← process
  let errors := p.descriptors.lookup 2
  let lists := assignments.filter fun
    | .list .. => true
    | _ => false
  match argv with
  | [] =>
    keepingDescriptors do
      if ← applyRedirects calls redirects then
        for a in assignments do
          assign calls a
          let value := ((← variableValue? a.name).getD [])
          trace errors [shownAssignment a.name (shownWord p.extended value)]
        setStatus (((← process).outputStatus).getD 0)
  | name :: args =>
    let named := textOf name
    let isSpecial := !p.extended && (Builtin.special.lookup named).isSome
    let body (after : Act Unit) : Act Unit := do
      if ← applyRedirects calls redirects then after
      else if isSpecial then throw .fault
    let shown := argv.map (shownWord p.extended)
    if named = "exec" ∧ args.isEmpty then
      body do
        trace errors shown
        setStatus 0
    else if Grammar.declares words.head? ∧ !lists.isEmpty then
      keepingDescriptors (body do
        runNamed calls 8 true name args
        for a in assignments do assign calls a)
    else
      keepingDescriptors (body do
        if isSpecial then
          for a in assignments do assign calls a
          trace errors shown
          runNamed calls 8 true name args
        else if assignments.isEmpty then
          trace errors shown
          runNamed calls 8 true name args
        else withAssignments calls assignments do
          let values ← assignments.mapM fun a => do
            return shownAssignment a.name ((← variableValue? a.name).getD [])
          trace errors (values ++ shown)
          runNamed calls 8 true name args)
  modifyProcess fun p => { p with stageStatuses := [p.status] }
  checkStatus calls

end CompileFlags.Shell
