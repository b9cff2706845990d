import CompileFlags.Shell.Regex
import CompileFlags.Shell.Tool.Basic

set_option autoImplicit false

namespace CompileFlags.Shell.Tool.Edit

/-- Where a line is addressed by. -/
inductive Address where
  | line (n : Nat)
  | last
  | pattern (r : Option Regex) (ignoreCase : Bool)
  | every (first step : Nat)

/-- The end of a range of lines. -/
inductive RangeEnd where
  | address (a : Address)
  | after (n : Nat)
  | multiple (n : Nat)

inductive Selection where
  | all
  | one (a : Address)
  | range (a : Address) (b : RangeEnd)

/-- A piece of the new text of a substitution. -/
inductive Piece where
  | text (s : Chars)
  | group (n : Nat)
  | recase (letter : Char)

inductive Action where
  | substitute (r : Option Regex) (ignoreCase : Bool) (new : List Piece) (all : Bool) (nth : Nat)
    (prints : Bool) (file : Option Chars)
  | translate (from_ into : Chars)
  | append (s : Chars)
  | insert (s : Chars)
  | change (s : Chars)
  | label (name : Chars)
  | branch (name : Chars)
  | branchIf (name : Chars)
  | branchUnless (name : Chars)
  | quit (status : Nat) (silent : Bool)
  | read (file : Chars)
  | write (file : Chars)
  | enter
  | leave
  | plain (letter : Char)

structure Step where
  selection : Selection
  negated : Bool
  action : Action

structure Reading where
  rest : Chars
  taken : Nat
  extended : Bool

abbrev Read := StateT Reading (Except Chars)

def refuse {α : Type} (reason : String) : Read α := do
  throw (charsOf ("-e expression #1, char " ++ toString (← get).taken ++ ": " ++ reason))

def take? : Read (Option Char) := do
  let r ← get
  match r.rest with
  | [] => return none
  | c :: rest =>
    set { r with rest := rest, taken := r.taken + 1 }
    return some c

def peek : Read (Option Char) := do
  return (← get).rest.head?

def takeWhile (p : Char → Bool) : Read Chars := do
  let r ← get
  let found := r.rest.takeWhile p
  set { r with rest := r.rest.drop found.length, taken := r.taken + found.length }
  return found

def skipBlanks : Read Unit := do
  let _ ← takeWhile isBlank

def delimited (d : Char) (inRegex : Bool) : Nat → Read (Option Chars)
  | 0 => return none
  | n + 1 => do
    match ← take? with
    | none => return none
    | some c =>
      if c = d then return some []
      else if c = '\\' then
        match ← take? with
        | none => return none
        | some e =>
          let rest ← delimited d inRegex n
          let piece : Chars := if e = d then [e]
            else if e = 'n' ∧ inRegex then ['\n'] else ['\\', e]
          return rest.map (piece ++ ·)
      else if c = '\n' ∧ inRegex then return none
      else return (← delimited d inRegex n).map (c :: ·)

def compile (s : Chars) : Read (Option Regex) := do
  if s.isEmpty then return none
  match Regex.parse? (← get).extended s with
  | some r => return some r
  | none => refuse "Invalid preceding regular expression"

def number? : Read (Option Nat) := do
  return nat? (← takeWhile Char.isDigit)

def address? : Read (Option Address) := do
  match ← peek with
  | some '$' =>
    let _ ← take?
    return some .last
  | some '/' =>
    let _ ← take?
    pattern '/'
  | some '\\' =>
    let _ ← take?
    match ← take? with
    | some d => pattern d
    | none => refuse "unterminated address regex"
  | some c =>
    if c.isDigit then
      let n := (← number?).getD 0
      if (← peek) = some '~' then
        let _ ← take?
        return some (.every n ((← number?).getD 0))
      return some (.line n)
    else return none
  | none => return none
where
  pattern (d : Char) : Read (Option Address) := do
    match ← delimited d true ((← get).rest.length + 1) with
    | none => refuse "unterminated address regex"
    | some s =>
      let r ← compile s
      let flags ← takeWhile fun c => c == 'I' || c == 'M'
      return some (.pattern r (flags.contains 'I'))

def rangeEnd : Read RangeEnd := do
  skipBlanks
  match ← peek with
  | some '+' =>
    let _ ← take?
    return .after ((← number?).getD 0)
  | some '~' =>
    let _ ← take?
    return .multiple ((← number?).getD 0)
  | _ =>
    match ← address? with
    | some a => return .address a
    | none => refuse "unexpected \x60,'"

def selection : Read Selection := do
  match ← address? with
  | none => return .all
  | some a =>
    skipBlanks
    if (← peek) = some ',' then
      let _ ← take?
      return .range a (← rangeEnd)
    else return .one a

def pieces : Nat → Chars → List Piece
  | 0, _ => []
  | _, [] => []
  | n + 1, '\\' :: c :: rest =>
    let piece : Piece :=
      if c.isDigit then .group (c.toNat - 0x30)
      else if c = 'n' then .text ['\n']
      else if c = 't' then .text ['\t']
      else if "LUluE".toList.contains c then .recase c
      else .text [c]
    piece :: pieces n rest
  | n + 1, '&' :: rest => .group 0 :: pieces n rest
  | n + 1, c :: rest => .text [c] :: pieces n rest

/-- The end of a command: a semicolon, a line feed, a closing brace, or the end of the script. -/
def finish : Read Unit := do
  skipBlanks
  match ← peek with
  | none => return
  | some c =>
    if c = ';' ∨ c = '\n' then
      let _ ← take?
    else if c = '}' ∨ c = '#' then return
    else
      let _ ← take?
      refuse "extra characters after command"

def substitution : Read Action := do
  match ← take? with
  | none => refuse "unterminated \x60s' command"
  | some d =>
    let old ← delimited d true ((← get).rest.length + 1)
    let new ← delimited d false ((← get).rest.length + 1)
    match old, new with
    | some old, some new =>
      let flags ← takeWhile fun c => "gpiImMe".toList.contains c || c.isDigit
      let nth := (nat? (flags.filter Char.isDigit)).getD 0
      let file ← if (← peek) = some 'w' then
          let _ ← take?
          skipBlanks
          pure (some (← takeWhile (· != '\n')))
        else pure none
      match ← peek with
      | some c =>
        if !(isBlank c || c == ';' || c == '\n' || c == '}' || c == '#') then
          let _ ← take?
          refuse "unknown option to \x60s'"
      | none => pure ()
      let r ← compile old
      finish
      return .substitute r (flags.contains 'i' || flags.contains 'I') (pieces new.length new)
        (flags.contains 'g') (max nth 1) (flags.contains 'p') file
    | _, _ => refuse "unterminated \x60s' command"

def commandText : Read Chars := do
  skipBlanks
  if (← peek) = some '\\' then
    let _ ← take?
    skipBlanks
    if (← peek) = some '\n' then
      let _ ← take?
  let rec go : Nat → Read Chars
    | 0 => return []
    | n + 1 => do
      match ← take? with
      | none => return []
      | some '\n' => return []
      | some '\\' =>
        match ← take? with
        | some c => return c :: (← go n)
        | none => return []
      | some c => return c :: (← go n)
  return (← go ((← get).rest.length + 1)) ++ ['\n']

def unescaped : Chars → Chars
  | '\\' :: 'n' :: s => '\n' :: unescaped s
  | '\\' :: '\\' :: s => '\\' :: unescaped s
  | c :: s => c :: unescaped s
  | [] => []

def action (c : Char) : Read Action := do
  match c with
  | 's' => substitution
  | 'y' =>
    match ← take? with
    | none => refuse "unterminated \x60y' command"
    | some d =>
      let from_ ← delimited d false ((← get).rest.length + 1)
      let into ← delimited d false ((← get).rest.length + 1)
      match from_, into with
      | some a, some b =>
        let a := unescaped a
        let b := unescaped b
        if a.length ≠ b.length then refuse "strings for \x60y' command are different lengths"
        finish
        return .translate a b
      | _, _ => refuse "unterminated \x60y' command"
  | 'a' => return .append (← commandText)
  | 'i' => return .insert (← commandText)
  | 'c' => return .change (← commandText)
  | ':' =>
    skipBlanks
    return .label (← takeWhile fun c => c != '\n' && c != ';' && !isBlank c)
  | 'b' | 't' | 'T' =>
    skipBlanks
    let name ← takeWhile fun c => c != '\n' && c != ';' && c != '}' && !isBlank c
    finish
    return if c = 'b' then .branch name else if c = 't' then .branchIf name else .branchUnless name
  | 'q' | 'Q' =>
    skipBlanks
    let status := (← number?).getD 0
    finish
    return .quit status (c == 'Q')
  | 'r' =>
    skipBlanks
    return .read (← takeWhile (· != '\n'))
  | 'w' =>
    skipBlanks
    return .write (← takeWhile (· != '\n'))
  | '{' => return .enter
  | '}' =>
    finish
    return .leave
  | c =>
    if "dDpPnNhHgGxl=zF".toList.contains c then
      finish
      return .plain c
    else refuse ("unknown command: \x60" ++ String.singleton c ++ "'")

def steps : Nat → Nat → Read (List Step)
  | 0, _ => return []
  | n + 1, depth => do
    let _ ← takeWhile fun c => isBlank c || c == '\n' || c == ';'
    match ← peek with
    | none =>
      if depth = 0 then return [] else refuse "unmatched \x60\x7b'"
    | some '#' =>
      let _ ← takeWhile (· != '\n')
      steps n depth
    | some _ =>
      let selection ← selection
      skipBlanks
      let marks ← takeWhile fun c => c == '!' || isBlank c
      match ← take? with
      | none => refuse "missing command"
      | some c =>
        if c = '}' ∧ depth = 0 then refuse "unexpected \x60\x7d'"
        let a ← action c
        let depth := match a with
          | .enter => depth + 1
          | .leave => depth - 1
          | _ => depth
        return ⟨selection, marks.contains '!', a⟩ :: (← steps n depth)

def parse (extended : Bool) (script : Chars) : Except Chars (Array Step) := do
  let (found, _) ← (steps (script.length + 2) 0).run ⟨script, 0, extended⟩
  return found.toArray

end CompileFlags.Shell.Tool.Edit
