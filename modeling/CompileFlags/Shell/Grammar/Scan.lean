import CompileFlags.Shell.Command

set_option autoImplicit false

namespace CompileFlags.Shell.Grammar

/-- A text still to come, announced on the current line. -/
structure PendingText where
  position : Nat
  stop : Chars
  stripTabs : Bool
  quoted : Bool

/-- How far a script has been read. A place in a script is given by the length of what follows it:
aliases are in use up to such a place, and behind one that ends in a blank the next word can be the
name of another. Patterns can have groups where that is switched on. -/
structure Scan where
  rest : Chars
  line : Nat
  extended : Bool
  groups : Bool := false
  pending : List PendingText
  texts : Array Word
  aliases : List (String × Chars) := []
  used : List (String × Nat) := []
  goesOn : Option Nat := none
  lineStart : Chars := []

def Scan.bound (scan : Scan) : Nat :=
  (scan.rest.length + 2) * ((scan.aliases.map (·.2.length)).foldl (· + ·) 0 + 1)

/-- Where and why a script is refused. -/
structure SyntaxFault where
  line : Nat
  reason : String
  shown : Chars := []

abbrev Parse := StateT Scan (Except SyntaxFault)

def refuse {α : Type} (reason : String) : Parse α := do
  throw { line := (← get).line, reason := reason }

def peek : Parse (Option Char) := do
  return (← get).rest.head?

def startsWith (s : String) : Parse Bool := do
  return s.toList.isPrefixOf (← get).rest

def startsExtended (s : String) : Parse Bool := do
  let scan ← get
  return scan.extended && s.toList.isPrefixOf scan.rest

def skip (n : Nat) : Parse Unit :=
  modify fun scan =>
    { scan with
      rest := scan.rest.drop n
      line := scan.line + (scan.rest.take n).count '\n'
      lineStart := lastLine n scan.lineStart scan.rest }
where
  lastLine : Nat → Chars → Chars → Chars
    | n + 1, _, '\n' :: rest => lastLine n rest rest
    | n + 1, start, _ :: rest => lastLine n start rest
    | _, start, _ => start

def takeWhile (p : Char → Bool) : Parse Chars := do
  let taken := (← get).rest.takeWhile p
  skip taken.length
  return taken

def skipBlanks : Parse Unit := do
  let rec go : Nat → Parse Unit
    | 0 => return
    | n + 1 => do
      let blanks ← takeWhile isBlank
      if ← startsWith "\\\n" then skip 2; go n
      else if !blanks.isEmpty then go n
  go (← get).rest.length
  if (← peek) = some '#' then let _ ← takeWhile (· != '\n')

/-- Repeat a step on a value while it says so; every step takes a character, so their number bounds
the steps. -/
def repeatStep {σ : Type} (step : σ → Parse (σ × Bool)) (start : σ) : Parse σ := do
  let rec go : Nat → σ → Parse σ
    | 0, s => return s
    | n + 1, s => do
      let (s, more) ← step s
      if more then go n s else return s
  go (← get).bound start

def collect {α : Type} (step : Parse (Option α)) : Parse (List α) := do
  let found ← repeatStep (fun found => do
    match ← step with
    | some a => return (a :: found, true)
    | none => return (found, false)) []
  return found.reverse

def within {α : Type} (text : Chars) (line : Nat) (inner : Parse α) : Parse α := do
  let outer ← get
  set { outer with rest := text, line := line, pending := [] }
  let a ← inner
  let scan ← get
  set { outer with texts := scan.texts }
  return a

def withoutPending {α : Type} (inner : Parse α) : Parse α := do
  let pending := (← get).pending
  modify ({ · with pending := [] })
  let a ← inner
  modify ({ · with pending := pending })
  return a

inductive Token where
  | ended
  | lineFeed
  | mark (s : String)
  | redirection
  | word (bare : String)
deriving DecidableEq

def bareText : Parse String := do
  return String.ofList ((← get).rest.takeWhile fun c => !isMeta c)

def marks : List String :=
  [";;&", ";;", ";&", ";", "&&", "&", "||", "|&", "|", "(", ")"]

def token : Parse Token := do
  skipBlanks
  let scan ← get
  let isMark (s : String) : Bool :=
    s.toList.isPrefixOf scan.rest && (scan.extended || !(["|&", ";&", ";;&"].contains s))
  match scan.rest with
  | [] => return .ended
  | '\n' :: _ => return .lineFeed
  | c :: rest =>
    if scan.extended && (c == '<' && rest.head? == some '(') then return .word ""
    if c = '<' ∨ c = '>' then return .redirection
    if scan.extended && (c == '&' && rest.head? == some '>') then return .redirection
    if c.isDigit then
      let digits := if scan.extended then rest.dropWhile Char.isDigit else rest
      if digits.head? = some '<' ∨ digits.head? = some '>' then return .redirection
    match marks.find? isMark with
    | some s => return .mark s
    | none => return .word (← bareText)

def reservedWords : List String :=
  ["!", "case", "do", "done", "elif", "else", "esac", "fi", "for", "if", "in", "then", "until",
    "while", "\x7b", "\x7d"]

def Token.shown : Token → String
  | .ended => "end of file"
  | .lineFeed => "newline"
  | .mark s => "\"" ++ s ++ "\""
  | .redirection => "redirection"
  | .word bare => if reservedWords.contains bare then "\"" ++ bare ++ "\"" else "word"

def unexpected {α : Type} (expected : Option String) : Parse α := do
  let t ← token
  if (← get).extended then
    let scan ← get
    let near (shown : String) : Parse α := throw {
      line := scan.line
      reason := "syntax error near unexpected token \x60" ++ shown ++ "'"
      shown := scan.lineStart.takeWhile (· != '\n') }
    match t with
    | .ended => refuse "syntax error: unexpected end of file"
    | .lineFeed => near "newline"
    | .mark s => near s
    | .redirection => near (String.ofList (scan.rest.take 1))
    | .word bare => near bare
  else
    let expecting := (expected.map fun s => " (expecting \"" ++ s ++ "\")").getD ""
    refuse ("Syntax error: " ++ t.shown ++ " unexpected" ++ expecting)

def replaceAlias : Parse Unit := do
  let rec go : Nat → Parse Unit
    | 0 => return
    | n + 1 => do
      match ← token with
      | .word bare =>
        let scan ← get
        let used := scan.used.filter (·.2 < scan.rest.length)
        if used.any (·.1 == bare) then return
        match scan.aliases.lookup bare with
        | none => return
        | some text =>
          let behind := scan.rest.drop bare.length
          set { scan with
            rest := text ++ behind
            used := (bare, behind.length) :: used
            goesOn := if text.getLast?.any isBlank then some behind.length else scan.goesOn }
          go n
      | _ => return
  let scan ← get
  if !scan.aliases.isEmpty then go (scan.aliases.length + 1)

def replaceNextAlias : Parse Unit := do
  match (← get).goesOn with
  | none => return
  | some place =>
    let _ ← token
    if (← get).rest.length ≤ place then
      modify ({ · with goesOn := none })
      replaceAlias

def expectMark (s : String) : Parse Unit := do
  if (← token) = .mark s then skip s.length else unexpected (some s)

def expectWord (s : String) : Parse Unit := do
  if (← token) = .word s then skip s.length else unexpected (some s)

end CompileFlags.Shell.Grammar
