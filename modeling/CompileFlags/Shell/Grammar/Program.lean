import CompileFlags.Shell.Grammar.Word

set_option autoImplicit false

namespace CompileFlags.Shell.Grammar

def closingWords : List String := ["do", "done", "elif", "else", "esac", "fi", "then", "\x7d"]

def endsList : Token → Bool
  | .ended => true
  | .mark s => [")", ";;", ";&", ";;&"].contains s
  | .word bare => closingWords.contains bare
  | _ => false

def streamNumber : Parse (Option Nat) := do
  let digits ← takeWhile Char.isDigit
  return if digits.isEmpty then none else some (natOf digits)

def target (inner : Inner) : Parse Word := do
  skipBlanks
  let w ← bareWord inner
  let t ← token
  if w.isEmpty then
    match t with
    | .word _ => return w
    | _ => unexpected none
  return w

def hereText (fd : Nat) (stripTabs : Bool) : Parse Redirect := do
  skipBlanks
  let (stop, quoted) ← stopText
  if stop.isEmpty ∧ !quoted then unexpected none
  let position := (← get).texts.size
  modify fun scan => { scan with
    texts := scan.texts.push []
    pending := scan.pending ++ [⟨position, stop, stripTabs, quoted⟩] }
  return .hereText fd position

def redirect (inner : Inner) : Parse Redirect := do
  if ← startsExtended "&>>" then
    skip 3
    return .bothOutputs .append (← target inner)
  if ← startsExtended "&>" then
    skip 2
    return .bothOutputs .write (← target inner)
  let fd ← streamNumber
  match (← get).rest with
  | '>' :: '>' :: _ =>
    skip 2
    return .file (fd.getD 1) .append false (← target inner)
  | '>' :: '|' :: _ =>
    skip 2
    return .file (fd.getD 1) .write true (← target inner)
  | '>' :: '&' :: _ =>
    skip 2
    let source ← target inner
    let isStream := source.bare?.all fun s => s.all Char.isDigit || s.getLast? = some '-'
    if (← get).extended ∧ fd.isNone ∧ !isStream then return .bothOutputs .write source
    return .copy (fd.getD 1) source
  | '>' :: _ =>
    skip 1
    return .file (fd.getD 1) .write false (← target inner)
  | '<' :: '<' :: '-' :: _ =>
    skip 3
    hereText (fd.getD 0) true
  | '<' :: '<' :: '<' :: _ =>
    if (← get).extended then
      skip 3
      return .hereWord (fd.getD 0) (← target inner)
    else
      skip 2
      hereText (fd.getD 0) false
  | '<' :: '<' :: _ =>
    skip 2
    hereText (fd.getD 0) false
  | '<' :: '&' :: _ =>
    skip 2
    return .copy (fd.getD 0) (← target inner)
  | '<' :: '>' :: _ =>
    skip 2
    return .file (fd.getD 0) .both false (← target inner)
  | _ =>
    skip 1
    return .file (fd.getD 0) .read false (← target inner)

def redirects (inner : Inner) : Parse (List Redirect) :=
  collect (do
    if (← token) = .redirection then return some (← redirect inner) else return none)

/-- The name before an equals sign, and whether the value is put behind the old one. -/
def assigned? (extended : Bool) (s : Chars) : Option (String × Bool × Chars) :=
  let name := s.takeWhile isNameChar
  if !isName name then none
  else match s.drop name.length with
    | '=' :: rest => some (String.ofList name, false, rest)
    | '+' :: '=' :: rest => if extended then some (String.ofList name, true, rest) else none
    | _ => none

def listItems (inner : Inner) : Parse (List Word) := do
  let items ← collect (do
    skipLines inner
    match ← token with
    | .word _ => return some (← bareWord inner)
    | _ => return none)
  expectMark ")"
  return items

def assignment? (inner : Inner) : Parse (Option Assignment) := do
  let scan ← get
  let name := scan.rest.takeWhile isNameChar
  let afterName := scan.rest.drop name.length
  if !isName name then return none
  let named := String.ofList name
  match assigned? scan.extended (scan.rest.take (name.length + 2)) with
  | some (_, more, _) =>
    skip (name.length + if more then 2 else 1)
    if scan.extended ∧ (← peek) = some '(' then
      skip 1
      return some (.list named more (← listItems inner))
    else return some (.text named none more (← bareWord inner))
  | none =>
    if scan.extended ∧ afterName.head? = some '[' then
      let behind := (afterName.dropWhile (· != ']')).drop 1
      let more := behind.take 2 = ['+', '=']
      if more ∨ behind.head? = some '=' then
        skip (name.length + 1)
        let item ← inner.word .subscript
        skip (if more then 2 else 1)
        return some (.text named (some item) more (← bareWord inner))
    return none

/-- A simple command as far as it has been read. -/
structure Simple where
  line : Nat
  assignments : List Assignment := []
  words : List Word := []
  redirects : List Redirect := []

def declares : Option Word → Bool
  | some w => match w.bare? with
    | some s => ["declare", "export", "local", "readonly", "typeset"].contains (String.ofList s)
    | none => false
  | none => false

/-- Read on in a simple command: a redirection, an assignment or a word. A list as an argument is an
assignment too, and its name stays among the arguments. -/
def simpleStep (inner : Inner) (s : Simple) : Parse (Simple × Bool) := do
  let extended := (← get).extended
  if s.words.isEmpty then replaceAlias else replaceNextAlias
  match ← token with
  | .redirection => return ({ s with redirects := s.redirects ++ [← redirect inner] }, true)
  | .word _ =>
    let isFront := s.words.isEmpty
    let found ← if isFront then assignment? inner else pure none
    match found with
    | some a => return ({ s with assignments := s.assignments ++ [a] }, true)
    | none =>
      if extended ∧ declares s.words.head? then
        let scan ← get
        let name := scan.rest.takeWhile isNameChar
        let isList := isName name ∧ ['=', '('].isPrefixOf (scan.rest.drop name.length)
        if isList then
          skip (name.length + 2)
          let items ← listItems inner
          return ({ s with
            assignments := s.assignments ++ [.list (String.ofList name) false items]
            words := s.words ++ [[.text name false]] }, true)
      let w ← bareWord inner
      let after := (← get).line
      let line := if isFront then after else s.line
      return ({ s with words := s.words ++ [w], line := line }, true)
  | _ => return (s, false)

def specialNames : List String :=
  [".", ":", "break", "continue", "eval", "exec", "exit", "export", "readonly", "return", "set",
    "shift", "times", "trap", "unset"]

/-- The level below a command of the grammar, itself included. -/
structure Below extends Inner where
  command : Parse Command

def simple (below : Below) : Parse Command := do
  let inner := below.toInner
  let line := (← get).line
  let first ← simpleStep inner { line }
  let s := first.1
  match s.words with
  | [w] =>
    if (← token) = .mark "(" then
      skip 1
      expectMark ")"
      match w.bare? with
      | some name =>
        let named := String.ofList name
        if !(← get).extended ∧ (!isName name ∨ specialNames.contains named) then
          refuse "Syntax error: Bad function name"
        skipLines inner
        return .define named (← below.command)
      | none => refuse "Syntax error: Bad function name"
  | _ => pure ()
  let s ← if first.2 then repeatStep (simpleStep inner) s else pure s
  return .simple s.line s.assignments s.words s.redirects

def block (below : Below) : Parse Command := do
  skipLines below.toInner
  let t ← token
  if t = .ended then return .nothing
  if endsList t then unexpected none
  below.script

/-- What follows the first condition: its commands, and those in the other case. -/
def branches (below : Below) : Parse (Command × Command) := do
  expectWord "then"
  let yes ← block below
  let parts ← collect (do
    if (← token) = .word "elif" then
      skip 4
      let test ← block below
      expectWord "then"
      return some (test, ← block below)
    else return none)
  let no ← if (← token) = .word "else" then
      skip 4
      block below
    else pure .nothing
  expectWord "fi"
  return (yes, parts.foldr (fun (test, yes) no => .choice test yes no) no)

def conditional (below : Below) : Parse Command := do
  let test ← block below
  let (yes, no) ← branches below
  return .choice test yes no

def loopParts (w : Word) : Word × Word × Word :=
  match splitWord ';' (w.map fun
    | .text s _ => .text s false
    | p => p) with
  | some (start, rest) =>
    match splitWord ';' rest with
    | some (test, step) => (start, test, step)
    | none => (start, rest, [])
  | none => (w, [], [])

def doBlock (below : Below) : Parse Command := do
  skipLines below.toInner
  if (← get).extended ∧ (← token) = .word "\x7b" then
    skip 1
    let body ← block below
    expectWord "\x7d"
    return body
  else
    expectWord "do"
    let body ← block below
    expectWord "done"
    return body

def loopHead (below : Below) : Parse (String × List Word) := do
  let w ← bareWord below.toInner
  match w.bare? with
  | none => refuse "Syntax error: Bad for loop variable"
  | some name =>
    if !isName name ∧ !(← get).extended then refuse "Syntax error: Bad for loop variable"
    skipLines below.toInner
    let items ← if (← token) = .word "in" then
        skip 2
        let items ← collect (do
          match ← token with
          | .word _ => return some (← bareWord below.toInner)
          | _ => return none)
        match ← token with
        | .mark ";" => skip 1
        | .lineFeed => pure ()
        | _ => unexpected none
        pure items
      else
        if (← token) = .mark ";" then skip 1
        pure [[.parameter "@" none .value true]]
    return (String.ofList name, items)

def each (below : Below) (line : Nat) : Parse Command := do
  skipBlanks
  if ← startsExtended "((" then
    skip 2
    let (start, test, step) := loopParts (← below.word .sum)
    if (← token) = .mark ";" then skip 1
    return .counted line start test step (← doBlock below)
  let (name, items) ← loopHead below
  return .each line name items (← doBlock below)

def choose (below : Below) (line : Nat) : Parse Command := do
  skipBlanks
  let (name, items) ← loopHead below
  return .choose line name items (← doBlock below)

def oneCase (below : Below) : Parse (Option (List Word × Command × CaseEnd)) := do
  skipLines below.toInner
  if (← token) = .word "esac" then return none
  if (← token) = .mark "(" then skip 1
  let pattern : Parse Word := do
    match ← token with
    | .word _ => bareWord below.toInner
    | .mark s =>
      skip s.length
      return []
    | .lineFeed =>
      skip 1
      return []
    | _ => return []
  let first ← pattern
  let others ← collect (do
    if (← token) = .mark "|" then
      skip 1
      return some (← pattern)
    else return none)
  expectMark ")"
  let body ← below.script
  let ending ← match ← token with
    | .mark ";;" => skip 2; pure CaseEnd.stop
    | .mark ";&" => skip 2; pure .fallThrough
    | .mark ";;&" => skip 3; pure .testNext
    | .word "esac" => pure .stop
    | _ => unexpected (some ";;")
  return some (first :: others, body, ending)

def select (below : Below) (line : Nat) : Parse Command := do
  match ← token with
  | .word _ => pure ()
  | _ => unexpected (some "word")
  let subject ← bareWord below.toInner
  skipLines below.toInner
  expectWord "in"
  let cases ← collect (oneCase below)
  expectWord "esac"
  return .select line subject cases

def conditionOperators : List String :=
  ["=", "==", "!=", "=~", "-eq", "-ne", "-lt", "-le", "-gt", "-ge", "-ef", "-nt", "-ot"]

def regexWord (inner : Inner) : Parse Word := do
  skipBlanks
  let parts ← collect (do
    match ← peek with
    | none => return none
    | some c =>
      if c = ' ' ∨ c = '\n' ∨ c = '\t' then return none
      else if isMeta c then
        skip 1
        return some [.text [c] false]
      else part inner .bare 0)
  return Word.joined parts.flatten

def plainCondition (inner : Inner) (whole single : Parse Condition) : Parse Condition := do
  skipLines inner
  match ← token with
  | .mark "(" =>
    skip 1
    let c ← whole
    expectMark ")"
    return c
  | .word "!" =>
    skip 1
    return .negation (← single)
  | .word bare =>
    let w ← bareWord inner
    let isUnary := bare.length = 2 ∧ bare.startsWith "-"
    match ← token with
    | .word "]]" => return .word w
    | .word op =>
      if conditionOperators.contains op then
        skip op.length
        skipBlanks
        let right ← if op = "=~" then regexWord inner else bareWord inner
        return .binary op w right
      else if isUnary then return .unary bare (← bareWord inner)
      else unexpected none
    | .redirection =>
      let op ← peek
      skip 1
      skipBlanks
      return .binary (if op = some '<' then "<" else ">") w (← bareWord inner)
    | _ => return .word w
  | _ => unexpected none

def condition (inner : Inner) : Nat → Bool → Parse Condition
  | 0, _ => unexpected none
  | depth + 1, single => do
    let plain := plainCondition inner (condition inner depth false) (condition inner depth true)
    if single then return ← plain
    let chain (mark : String) (one : Parse Condition)
        (join : Condition → Condition → Condition) : Parse Condition := do
      let first ← one
      let others ← collect (do
        skipLines inner
        if (← token) = .mark mark then
          skip 2
          return some (← one)
        else return none)
      return others.foldl join first
    chain "||" (chain "&&" plain .both) .either

/-- A compound command without its redirections, or nothing where a simple one stands. -/
def compound? (below : Below) : Parse (Option Command) := do
  modify ({ · with goesOn := none })
  replaceAlias
  let t ← token
  let line := (← get).line
  let word (s : String) : Parse Unit := skip s.length
  let extended := (← get).extended
  match t with
  | .mark "(" =>
    if ← startsExtended "((" then
      skip 2
      return some (.sum line (← below.word .sum))
    skip 1
    let body ← block below
    expectMark ")"
    return some (.subshell line body)
  | .word "\x7b" =>
    skip 1
    let body ← block below
    expectWord "\x7d"
    return some (.redirected line body [])
  | .word "if" => word "if"; return some (← conditional below)
  | .word "while" | .word "until" =>
    skip 5
    let test ← block below
    return some (.loop (t = .word "until") test (← doBlock below))
  | .word "for" => word "for"; return some (← each below line)
  | .word "case" => word "case"; return some (← select below line)
  | .word "select" =>
    if extended then
      word "select"
      return some (← choose below line)
    else return none
  | .word "[[" =>
    if extended then
      skip 2
      let groups := (← get).groups
      modify ({ · with groups := true })
      let c ← condition below.toInner ((← get).rest.length + 1) false
      modify ({ · with groups := groups })
      skipLines below.toInner
      expectWord "]]"
      return some (.condition line c)
    else return none
  | .word "function" =>
    if extended then
      word "function"
      skipBlanks
      let name ← bareText
      skip name.length
      if (← token) = .mark "(" then
        skip 1
        expectMark ")"
      skipLines below.toInner
      return some (.define name (← below.command))
    else return none
  | .word bare =>
    if closingWords.contains bare ∨ bare = "in" ∧ !extended then unexpected none else return none
  | .redirection => return none
  | _ => unexpected none

def commandWith (below : Below) : Parse Command := do
  let _ ← token
  let start := (← get).line
  match ← compound? below with
  | none => simple below
  | some (.define name body) => return .define name body
  | some c =>
    let s ← get
    let line := if s.extended then s.line else start
    match ← redirects below.toInner with
    | [] => return c
    | rs => return .redirected line c rs

def pipeline (below : Below) : Parse Command := do
  let negated := (← token) = .word "!"
  if negated then skip 1
  if negated ∧ !(← get).extended ∧ (← token) = .word "!" then unexpected none
  if (← get).extended ∧ (← token) = .word "time" then skip 4
  let first ← commandWith below
  let next : Parse Command := do
    skipLines below.toInner
    if (← token) = .word "!" then unexpected none
    commandWith below
  let others ← collect (do
    match ← token with
    | .mark "|" =>
      skip 1
      return some (false, ← next)
    | .mark "|&" =>
      skip 2
      return some (true, ← next)
    | _ => return none)
  let both (c : Command) : Command := .redirected 0 c [.copy 2 [.text ['1'] false]]
  let rec stages (c : Command) : List (Bool × Command) → List Command
    | [] => [c]
    | (withErrors, next) :: rest => (if withErrors then both c else c) :: stages next rest
  let whole := match others with
    | [] => first
    | others => .pipe (stages first others)
  return if negated then .negation whole else whole

def andOr (below : Below) : Parse Command := do
  let first ← pipeline below
  repeatStep (fun c => do
    match ← token with
    | .mark "&&" =>
      skip 2
      skipLines below.toInner
      return (.both c (← pipeline below), true)
    | .mark "||" =>
      skip 2
      skipLines below.toInner
      return (.either c (← pipeline below), true)
    | _ => return (c, false)) first

def follow : Command → Command → Command
  | .nothing, c => c
  | c, d => .inOrder c d

def listOf (below : Below) (oneLine : Bool) : Parse Command :=
  repeatStep (fun before => do
    if !oneLine then skipLines below.toInner
    let t ← token
    if t = .ended ∨ t = .lineFeed ∨ (!oneLine ∧ endsList t) then return (before, false)
    let c ← andOr below
    match ← token with
    | .mark ";" =>
      skip 1
      return (follow before c, true)
    | .mark "&" =>
      skip 1
      return (follow before (.background c), true)
    | .lineFeed => return (follow before c, !oneLine)
    | _ => return (follow before c, false)) .nothing

def level : Nat → Below
  | 0 => { word := fun _ => unexpected none, script := unexpected none, command := unexpected none }
  | n + 1 => {
    word := fun e => enclosed (level n).toInner e
    script := fun scan => listOf (level n) false scan
    command := fun scan => commandWith (level n) scan }

def nextLine? : Parse (Option Command) := do
  let below := level (← get).bound
  match ← token with
  | .ended => return none
  | .lineFeed =>
    lineFeed below.toInner
    return some .nothing
  | _ =>
    let c ← listOf below true
    match ← token with
    | .ended => return some c
    | .lineFeed =>
      lineFeed below.toInner
      return some c
    | _ => unexpected none

end CompileFlags.Shell.Grammar
