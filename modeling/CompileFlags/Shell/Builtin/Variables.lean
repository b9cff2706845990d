import CompileFlags.Shell.Builtin.Output

set_option autoImplicit false

namespace CompileFlags.Shell

def splitAssignment (arg : Chars) : Chars × Option Chars :=
  let name := arg.takeWhile (· != '=')
  match arg.drop name.length with
  | _ :: value => (name, some value)
  | [] => (name, none)

def byName (a b : String × Variable) : Bool := decide (a.1 ≤ b.1)

def variableLines (before : String) (p : Process) (shown : Variable → Bool) : Chars :=
  let vars := (p.vars.filter fun (_, v) => shown v).mergeSort byName
  vars.flatMap fun (name, v) =>
    match v.value with
    | .text s => charsOf (before ++ name ++ "=") ++ quotedText s ++ ['\n']
    | _ => []

def attributeLetters (v : Variable) : String :=
  let kind := match v.value with
    | .list _ => "a"
    | .table _ => "A"
    | _ => ""
  let conversion := match v.conversion with
    | .number => "i"
    | .upper => "u"
    | .lower => "l"
    | .none => ""
  let all := kind ++ conversion ++ (if v.readOnly then "r" else "") ++ if v.exported then "x" else ""
  if all.isEmpty then "-" else all

def declarationLine (name : String) (v : Variable) : Chars :=
  let start := charsOf ("declare -" ++ attributeLetters v ++ " " ++ name)
  match v.value with
  | .missing => start ++ ['\n']
  | .text s => start ++ ['='] ++ doubleQuotedText s ++ ['\n']
  | .list items =>
    start ++ ['=', '('] ++ [' '].intercalate (items.map fun (n, s) =>
      ['['] ++ natText n ++ [']', '='] ++ doubleQuotedText s) ++ [')', '\n']
  | .table items =>
    start ++ ['=', '('] ++ (tableOrder items).flatMap (fun (key, s) =>
      ['['] ++ key ++ [']', '='] ++ doubleQuotedText s ++ [' ']) ++ [')', '\n']

def declarationLines (p : Process) (shown : Variable → Bool) : Chars :=
  ((p.vars.filter fun (_, v) => shown v).mergeSort byName).flatMap fun (name, v) =>
    declarationLine name v

/-- The text that a variable takes when a text is assigned to it, behind its old one or not. -/
def convertedText (v : Variable) (old : Chars) (more : Bool) (s : Chars) : Act Chars := do
  match v.conversion with
  | .none => return if more then old ++ s else s
  | .upper => return recased true true (if more then old ++ s else s)
  | .lower => return recased false true (if more then old ++ s else s)
  | .number =>
    let n ← evalFormula s
    if more then return intText (n + (← evalFormula old)) else return intText n

namespace Builtin

def forNames (args : List Chars) (act : String → Option Chars → Act Unit) : Act Unit := do
  setStatus 0
  for arg in args do
    let (name, value) := splitAssignment arg
    if !isName name then
      if (← process).extended then
        complain (charsOf "\x60" ++ arg ++ charsOf "': not a valid identifier")
        setStatus 1
      else fault (name ++ charsOf ": bad variable name")
    else act (textOf name) value

def changed (name : String) (value : Option Chars) (change : Variable → Variable) : Act Unit := do
  match value with
  | some s =>
    let v := change (((← process).variableNamed? name).getD {})
    setVariable name (← convertedText v [] false s)
  | none => pure ()
  modifyProcess fun p => p.withVariable name (change ((p.variableNamed? name).getD {}))

def export_ : Builtin := fun _ args => do
  let (options, args) := leadingOptions args
  let p ← process
  if args.isEmpty then
    printAll (if p.extended then declarationLines p (·.exported)
      else variableLines "export " p (·.exported))
  else
    forNames args fun name value =>
      changed name value ({ · with exported := !options.contains 'n' })

def readonly : Builtin := fun _ args => do
  let (_, args) := leadingOptions args
  let p ← process
  if args.isEmpty then
    printAll (if p.extended then declarationLines p (·.readOnly)
      else variableLines "readonly " p (·.readOnly))
  else forNames args fun name value => changed name value ({ · with readOnly := true })

def hide (name : String) : Act Unit := do
  modifyProcess fun p =>
    match p.hidden with
    | frame :: frames =>
      if frame.any (·.1 == name) then p
      else { p with hidden := ((name, p.variableNamed? name) :: frame) :: frames }
    | [] => p

def declared (on off : Chars) (v : Variable) : Variable where
  value :=
    if on.contains 'A' then match v.value with
      | .table items => .table items
      | _ => .table []
    else if on.contains 'a' then match v.value with
      | .missing => .list []
      | .text s => .list [(0, s)]
      | value => value
    else v.value
  exported := (v.exported || on.contains 'x') && !off.contains 'x'
  readOnly := v.readOnly || on.contains 'r'
  conversion :=
    if on.contains 'i' then .number
    else if on.contains 'u' then .upper
    else if on.contains 'l' then .lower
    else if off.contains 'i' ∨ off.contains 'u' ∨ off.contains 'l' then .none
    else v.conversion

/-- The letters behind plus signs at the front of arguments, and the arguments behind them. -/
def plusOptions : List Chars → Chars × List Chars
  | ('+' :: letters) :: rest =>
    let (more, args) := plusOptions rest
    (letters ++ more, args)
  | args => ([], args)

def local_ : Builtin := fun _ args => do
  let p ← process
  if p.hidden.isEmpty then fault (charsOf (if p.extended then "can only be used in a function"
    else "not in a function")) (if p.extended then 1 else 2)
  let (options, args) := if p.extended then leadingOptions args else ([], args)
  forNames args fun name value => do
    hide name
    match value with
    | some s =>
      if p.extended then modifyProcess (·.withoutVariable name)
      setVariable name s
    | none =>
      if p.extended then modifyProcess (·.withVariable name {})
    if p.extended then changed name none (declared options [])

def declare : Builtin := fun _ args => do
  let p ← process
  let (on, args) := leadingOptions args
  let (off, names) := plusOptions args
  setStatus 0
  if on.contains 'p' ∧ !names.isEmpty then
    for name in names do
      match p.variableNamed? (textOf name) with
      | some v => let _ ← write 1 (declarationLine (textOf name) v)
      | none =>
        complain (name ++ charsOf ": not found")
        setStatus 1
  else if on.contains 'f' ∨ on.contains 'F' then
    for name in names do
      if (p.functions.lookup (textOf name)).isSome then
        if on.contains 'F' then let _ ← write 1 (name ++ ['\n'])
      else setStatus 1
  else if names.isEmpty then
    printAll (declarationLines p fun v =>
      (!on.contains 'x' || v.exported) && (!on.contains 'r' || v.readOnly))
  else
    let isLocal := !p.hidden.isEmpty ∧ !on.contains 'g'
    forNames names fun name value => do
      if isLocal then
        hide name
        modifyProcess (·.withoutVariable name)
      changed name value (declared on off)

def unset : Builtin := fun _ args => do
  let (options, names) := leadingOptions args
  let p ← process
  setStatus 0
  for arg in names do
    let name := textOf arg
    if p.extended ∧ arg.contains '[' then
      let key := ((arg.dropWhile (· != '[')).drop 1).dropLast
      let name := textOf (arg.takeWhile (· != '['))
      let v := ((← process).variableNamed? name).getD {}
      match v.value with
      | .table items =>
        changeVariable name ({ · with value := .table (items.filter (·.1 != key)) })
      | _ =>
        let items := itemsOf v
        let n ← evalFormula key
        let size : Nat := (items.map (·.1 + 1)).foldl max 0
        let n := (if n < 0 then size + n else n).toNat
        changeVariable name ({ · with value := .list (items.filter (·.1 != n)) })
      continue
    let isFunction := options.contains 'f' ||
      (p.extended && !options.contains 'v' && (p.variableNamed? name).isNone)
    if !p.extended ∧ !isFunction ∧ !isName arg then fault (arg ++ charsOf ": bad variable name")
    if isFunction then
      modifyProcess fun p => { p with functions := p.functions.filter (·.1 != name) }
    else
      let v := ((← process).variableNamed? name).getD {}
      if v.readOnly then
        if p.extended then
          complain (charsOf (name ++ ": cannot unset: readonly variable"))
          setStatus 1
        else fault (charsOf (name ++ ": is read only"))
      else modifyProcess (·.withoutVariable name)

def optionNames : List (String × Char) :=
  [("allexport", 'a'), ("noclobber", 'C'), ("errexit", 'e'), ("noglob", 'f'), ("ignoreeof", 'I'),
    ("interactive", 'i'), ("monitor", 'm'), ("noexec", 'n'), ("stdin", 's'), ("nounset", 'u'),
    ("verbose", 'v'), ("vi", 'V'), ("emacs", 'E'), ("xtrace", 'x'), ("notify", 'b'), ("nolog", 'l'),
    ("debug", 'd'), ("pipefail", 'P'), ("posix", 'p'), ("braceexpand", 'B'), ("hashall", 'h')]

def listedOptions : List String :=
  ["errexit", "noglob", "ignoreeof", "interactive", "monitor", "noexec", "stdin", "xtrace", "verbose",
    "vi", "emacs", "noclobber", "allexport", "notify", "nounset", "privileged", "nolog", "debug"]

def listedExtended : List String :=
  ["allexport", "braceexpand", "emacs", "errexit", "errtrace", "functrace", "hashall", "histexpand",
    "history", "ignoreeof", "interactive-comments", "keyword", "monitor", "noclobber", "noexec",
    "noglob", "nolog", "notify", "nounset", "onecmd", "physical", "pipefail", "posix", "privileged",
    "verbose", "vi", "xtrace"]

def optionLines (asTable : Bool) (p : Process) : Chars :=
  let isOn (name : String) : Bool := (optionNames.lookup name).any p.hasOption ||
    (p.extended && ["braceexpand", "hashall", "interactive-comments"].contains name)
  charsOf (if asTable ∧ !p.extended then "Current option settings\n" else "") ++
    (if p.extended then listedExtended else listedOptions).flatMap fun name =>
      if asTable then
        let pad := List.replicate ((if p.extended then 15 else 16) - name.length) ' '
        charsOf name ++ pad ++ (if p.extended then ['\t'] else []) ++
          charsOf (if isOn name then "on\n" else "off\n")
      else charsOf ((if isOn name then "set -o " else "set +o ") ++ name ++ "\n")

def setOption (on : Bool) (option : Char) : Act Unit :=
  modifyProcess fun p =>
    let others := p.options.filter (· != option)
    { p with options := if on then others ++ [option] else others }

def isOption (extended : Bool) (c : Char) : Bool :=
  "aCefImnsuvxVEb".toList.contains c || c == 'i' || (extended && "hBpklrtH".toList.contains c)

/-- Take the options of `set` from the front of arguments; the rest are the new arguments of the
script, if any are given. -/
def setOptions : Nat → List Chars → Act (Option (List Chars))
  | 0, args => return some args
  | _, [] => return none
  | n + 1, arg :: rest => do
    match arg with
    | ['-', '-'] => return some rest
    | ['-'] => return if rest.isEmpty then none else some rest
    | sign :: letters =>
      if (sign = '-' ∨ sign = '+') ∧ !letters.isEmpty then
        let mut rest := rest
        for c in letters do
          if c = 'o' then
            match rest with
            | name :: others =>
              match optionNames.lookup (textOf name) with
              | some option => setOption (sign == '-') option
              | none =>
                if (← process).extended then
                  complain (name ++ charsOf ": invalid option name")
                else fault (charsOf "Illegal option -o " ++ name)
              rest := others
            | [] => printAll (optionLines (sign == '-') (← process))
          else if isOption (← process).extended c then setOption (sign == '-') c
          else if (← process).extended then
            fault ([sign, c] ++ charsOf ": invalid option")
          else fault (charsOf "Illegal option " ++ [sign, c])
        setOptions n rest
      else return some (arg :: rest)
    | [] => return some (arg :: rest)

def set_ : Builtin := fun _ args => do
  if args.isEmpty then printAll (variableLines "" (← process) fun _ => true)
  else
    setStatus 0
    match ← setOptions (args.length + 1) args with
    | some args => modifyProcess ({ · with args := args, optionOffset := 0 })
    | none => pure ()

def shift : Builtin := fun _ args => do
  let p ← process
  match args with
  | arg :: _ =>
    match nat? arg with
    | none =>
      fault (if p.extended then arg ++ charsOf ": numeric argument required"
        else charsOf "Illegal number: " ++ arg)
    | some n => go p n
  | [] => go p 1
where
  go (p : Process) (n : Nat) : Act Unit := do
    if p.args.length < n then
      if p.extended then setStatus 1 else fault (charsOf "can't shift that many")
    else
      modifyProcess ({ · with args := p.args.drop n })
      setStatus 0

/-- A line of input with whether each character was protected, up to its end; the length bounds
how many lines a backslash joins. -/
def inputLine (raw : Bool) (stop : Char) : Nat → Chars → List (Char × Bool) × Nat × Bool
  | 0, _ => ([], 0, false)
  | _, [] => ([], 0, false)
  | n + 1, c :: s =>
    let more (item : List (Char × Bool)) (taken : Nat) (r : List (Char × Bool) × Nat × Bool) :=
      (item ++ r.1, taken + r.2.1, r.2.2)
    if c = stop then ([], 1, true)
    else match raw, c, s with
      | false, '\\', '\n' :: s => more [] 2 (inputLine raw stop n s)
      | false, '\\', d :: s => more [(d, true)] 2 (inputLine raw stop n s)
      | false, '\\', [] => ([], 1, false)
      | _, _, _ => more (if c = '\x00' then [] else [(c, false)]) 1 (inputLine raw stop n s)

def readLine (input : Chars) : Chars × Nat × Bool :=
  let (line, taken, complete) := inputLine false '\n' (input.length + 1) input
  (line.map (·.1), taken, complete)

def inputFields (separators : Chars) : Nat → List (Char × Bool) → List Chars
  | 0, _ => []
  | n + 1, s =>
    let separates (item : Char × Bool) : Bool := !item.2 && separators.contains item.1
    let isSpace (item : Char × Bool) : Bool :=
      separates item && (item.1 == ' ' || item.1 == '\t' || item.1 == '\n')
    let s := s.dropWhile isSpace
    let field := s.takeWhile fun item => !separates item
    let behind := (s.drop field.length).dropWhile isSpace
    let behind := match behind with
      | item :: rest => if separates item then rest.dropWhile isSpace else behind
      | [] => []
    if n = 0 then
      if behind.isEmpty then [field.map (·.1)]
      else [((s.reverse.dropWhile isSpace).reverse).map (·.1)]
    else field.map (·.1) :: inputFields separators n behind

def readOptions : Nat → List Chars → List (Char × Chars) × List Chars
  | 0, args => ([], args)
  | n + 1, args =>
    match args with
    | ['-', '-'] :: rest => ([], rest)
    | ('-' :: c :: letters) :: rest =>
      let takesValue := "adinNptu".toList.contains c
      if takesValue then
        let (value, rest) := if letters.isEmpty then (rest.headD [], rest.drop 1)
          else (letters, rest)
        let (more, names) := readOptions n rest
        ((c, value) :: more, names)
      else
        let rest := if letters.isEmpty then rest else ('-' :: letters) :: rest
        let (more, names) := readOptions n rest
        ((c, []) :: more, names)
    | args => ([], args)

def read : Builtin := fun _ args => do
  let p ← process
  let (options, names) := readOptions (args.flatten.length + args.length + 1) args
  let list := if p.extended then options.lookup 'a' else none
  if names.isEmpty ∧ !p.extended then fault (charsOf "arg count")
  for name in names do
    if !isName name then fault (name ++ charsOf ": bad variable name")
  let fd := ((options.lookup 'u').bind nat?).getD 0
  let stop := match options.lookup 'd' with
    | some (c :: _) => c
    | some [] => '\x00'
    | none => '\n'
  let pending ← pendingInput fd
  let (line, taken, complete) := match (options.lookup 'n').bind nat? with
    | some n => ((pending.take n).map fun c => (c, false), min n pending.length,
        decide (n ≤ pending.length))
    | none => inputLine (options.any (·.1 == 'r')) stop (pending.length + 1) pending
  consume fd taken
  setStatus (if complete then 0 else 1)
  match list, names with
  | some name, _ =>
    let fields := inputFields p.separators (line.length + 1) line
    let fields := (fields.reverse.dropWhile List.isEmpty).reverse
    changeVariable (textOf name) ({ · with
      value := .list ((List.range fields.length).zip fields) })
  | none, [] => setVariable "REPLY" (line.map (·.1))
  | none, names =>
    for (name, value) in names.zip (inputFields p.separators names.length line) do
      setVariable (textOf name) value

/-- The next option among the arguments: its letter, its argument, and where to go on. -/
def getopts : Builtin := fun _ args => do
  let p ← process
  match args with
  | spec :: name :: given =>
    let args := if given.isEmpty then p.args else given
    let index := (((p.value? "OPTIND").bind nat?).getD 1) - 1
    let offset := if p.optionOffset = 0 then 1 else p.optionOffset
    let arg := args.getD index []
    let name := textOf name
    let place (index offset : Nat) : Act Unit := do
      setVariable "OPTIND" (natText (index + 1))
      modifyProcess ({ · with optionOffset := offset })
    let finish (index : Nat) : Act Unit := do
      place index 0
      setVariable name ['?']
      setStatus 1
    if args.length ≤ index ∨ arg.head? ≠ some '-' ∨ arg.length < 2 then finish index
    else if arg = ['-', '-'] then finish (index + 1)
    else
      let c := arg.getD offset '?'
      let isLast := arg.length ≤ offset + 1
      let spec' := if spec.head? = some ':' then spec.drop 1 else spec
      let silent := spec.head? = some ':'
      let after := if isLast then (index + 1, 0) else (index, offset + 1)
      setStatus 0
      match spec'.dropWhile (· != c) with
      | _ :: ':' :: _ =>
        if !isLast then
          setVariable "OPTARG" (arg.drop (offset + 1))
          place (index + 1) 0
          setVariable name [c]
        else if index + 1 < args.length then
          setVariable "OPTARG" (args.getD (index + 1) [])
          place (index + 2) 0
          setVariable name [c]
        else
          place (index + 1) 0
          if silent then
            setVariable "OPTARG" [c]
            setVariable name [':']
          else
            let _ ← write 2 (charsOf "No arg for -" ++ [c] ++ charsOf " option\n")
            modifyProcess (·.withoutVariable "OPTARG")
            setVariable name ['?']
      | _ :: _ =>
        place after.1 after.2
        if c = ':' then setVariable name ['?']
        else
          modifyProcess (·.withoutVariable "OPTARG")
          setVariable name [c]
      | [] =>
        place after.1 after.2
        if silent then setVariable "OPTARG" [c]
        else
          let _ ← write 2 (charsOf "Illegal option -" ++ [c] ++ ['\n'])
          modifyProcess (·.withoutVariable "OPTARG")
        setVariable name ['?']
  | _ => fault (charsOf "usage: getopts optstring var [arg]")

def mapfile : Builtin := fun _ args => do
  let (options, names) := leadingOptions args
  let ls := linesOf (← readAll 0)
  let ls := if options.contains 't' then ls else ls.map (· ++ ['\n'])
  let name := (names.head?.map textOf).getD "MAPFILE"
  changeVariable name ({ · with value := .list ((List.range ls.length).zip ls) })
  setStatus 0

end Builtin

end CompileFlags.Shell
