import CompileFlags.Shell.Grammar.Scan
import CompileFlags.Shell.Printing

set_option autoImplicit false

namespace CompileFlags.Shell.Grammar

/-- The surroundings of a word. -/
inductive Enclosure where
  | bare
  | quotes
  | hereText
  | sum
  | parens
  | group
  | brackets
  | braces
  | quotedBraces
  | subscript
deriving DecidableEq

def Enclosure.isQuoted : Enclosure → Bool
  | .bare | .group | .braces | .subscript => false
  | _ => true

/-- The readers of what lies one level deeper: an enclosed word with its end, and a list of
commands before theirs. -/
structure Inner where
  word : Enclosure → Parse Word
  script : Parse Command

def Enclosure.ending? (e : Enclosure) (s : Chars) : Option Nat :=
  match e, s with
  | .bare, c :: _ => if isMeta c then some 0 else none
  | .quotes, '"' :: _ => some 1
  | .sum, ')' :: ')' :: _ => some 2
  | .parens, ')' :: _ | .group, ')' :: _ => some 1
  | .brackets, ']' :: _ => some 1
  | .braces, '\x7d' :: _ | .quotedBraces, '\x7d' :: _ => some 1
  | .subscript, ']' :: _ => some 1
  | _, _ => none

def Enclosure.isEscaped (e : Enclosure) (c : Char) : Bool :=
  if e.isQuoted then
    c == '\\' || c == '$' || c == '\x60' || (c == '"' && (e == .quotes || e == .quotedBraces)) ||
      (c == '\x7d' && e == .quotedBraces)
  else true

/-- Refuse a script that ends before a closing mark. The extended shell tells the line of the opening
one. -/
def refuseOpen {α : Type} (opened : Nat) (mark reason : String) : Parse α := do
  let scan ← get
  if scan.extended then
    throw {
      line := opened
      reason := "unexpected EOF while looking for matching \x60" ++ mark ++ "'" }
  else refuse reason

def cutShort (opened : Nat) : Enclosure → Parse (Option Word)
  | .bare | .hereText => return none
  | .quotes => refuseOpen opened "\"" "Syntax error: Unterminated quoted string"
  | .sum | .parens | .group | .brackets => refuseOpen opened ")" "Syntax error: Missing '))'"
  | .braces | .quotedBraces | .subscript => refuseOpen opened "\x7d" "Syntax error: Missing '\x7d'"

def singleQuoted : Parse WordPart := do
  let opened := (← get).line
  skip 1
  let s ← takeWhile (· != '\x27')
  if (← peek).isNone then
    refuseOpen opened "'" "Syntax error: Unterminated quoted string"
  skip 1
  return .text s true

def escapedPiece : Parse (Option Chars) := do
  match (← get).rest with
  | '\x27' :: _ => return none
  | '\\' :: c :: rest =>
    let digits (p : Char → Bool) (most : Nat) (s : Chars) := (s.take most).takeWhile p
    if c = 'x' ∧ rest.head?.any isHexDigit then
      let ds := digits isHexDigit 2 rest
      skip (2 + ds.length)
      return some [Char.ofNat (hexValue ds)]
    else if (c = 'u' ∨ c = 'U') ∧ rest.head?.any isHexDigit then
      let ds := digits isHexDigit (if c = 'u' then 4 else 8) rest
      skip (2 + ds.length)
      return some (unicodeText (hexValue ds))
    else if isOctalDigit c then
      let ds := digits isOctalDigit 3 (c :: rest)
      skip (1 + ds.length)
      return some [Char.ofNat (octalValue ds % 256)]
    else
      skip 2
      if c = 'E' then return some ['\x1b']
      else if c = '\x27' ∨ c = '"' ∨ c = '?' then return some [c]
      else return some ((letterEscape? c).elim ['\\', c] fun d => [d])
  | [] => refuse "unexpected EOF while looking for matching \x60''"
  | c :: _ =>
    skip 1
    return some [c]

/-- A script between backquotes, where a backslash protects backquotes, dollar signs and itself. -/
def backquoted (inner : Inner) (e : Enclosure) : Parse WordPart := do
  skip 1
  let line := (← get).line
  let pieces ← collect (do
    match (← get).rest with
    | [] => refuseOpen line "\x60" "Syntax error: EOF in backquote substitution"
    | '\x60' :: _ => return none
    | '\\' :: c :: _ =>
      skip 2
      if c = '\n' then return some []
      else if c = '\x60' ∨ c = '$' ∨ c = '\\' ∨ (c = '"' ∧ e = .quotes) then return some [c]
      else return some ['\\', c]
    | c :: _ =>
      skip 1
      return some [c])
  skip 1
  let script ← within pieces.flatten line do
    let script ← inner.script
    if (← token) = .ended then return script else unexpected none
  return .output script e.isQuoted

def nameOrNumber : Parse (Option String) := do
  match ← peek with
  | some c =>
    if isNameStart c then return some (String.ofList (← takeWhile isNameChar))
    else if c.isDigit then return some (String.ofList (← takeWhile Char.isDigit))
    else if isSpecialParameter c then
      skip 1
      return some (String.singleton c)
    else return none
  | none => return none

def splitWord (sep : Char) : Word → Option (Word × Word)
  | .text s false :: rest =>
    match Text.splitOn sep s with
    | before :: _ :: _ =>
      some ([.text before false], .text (s.drop (before.length + 1)) false :: rest)
    | _ => (splitWord sep rest).map fun (a, b) => (.text s false :: a, b)
  | part :: rest => (splitWord sep rest).map fun (a, b) => (part :: a, b)
  | [] => none

def fallbackOf? : Char → Option Fallback
  | '-' => some .default
  | '=' => some .assign
  | '?' => some .demand
  | '+' => some .alternative
  | _ => none

def operand (inner : Inner) (quoted : Bool) (length : Nat) : Parse Word := do
  skip length
  inner.word (if quoted then .quotedBraces else .braces)

def extendedUse (inner : Inner) : Parse ParameterUse := do
  match (← get).rest with
  | ':' :: _ =>
    let w ← operand inner false 1
    match splitWord ':' w with
    | some (start, length) => return .slice start (some length)
    | none => return .slice w none
  | '/' :: rest =>
    let (which, length) : Matches × Nat := match rest with
      | '/' :: _ => (.all, 2)
      | '#' :: _ => (.atStart, 2)
      | '%' :: _ => (.atEnd, 2)
      | _ => (.first, 1)
    let w ← operand inner false length
    match splitWord '/' w with
    | some (pattern, replacement) => return .replace which pattern replacement
    | none => return .replace which w []
  | '@' :: c :: '\x7d' :: _ =>
    skip 3
    return .operator c
  | c :: rest =>
    let all := rest.head? = some c
    let _ ← operand inner false (if all then 2 else 1)
    return if c = '^' then .recase true all
      else if c = ',' then .recase false all
      else .invalid
  | [] => return .invalid

def use (inner : Inner) (quoted : Bool) : Parse ParameterUse := do
  let scan ← get
  let fallback (emptyToo : Bool) (kind : Fallback) : Parse ParameterUse := do
    return .fallback kind emptyToo (← operand inner quoted (if emptyToo then 2 else 1))
  match scan.rest with
  | '\x7d' :: _ =>
    skip 1
    return .value
  | '#' :: '#' :: _ => return .cutStart true (← operand inner false 2)
  | '#' :: _ => return .cutStart false (← operand inner false 1)
  | '%' :: '%' :: _ => return .cutEnd true (← operand inner false 2)
  | '%' :: _ => return .cutEnd false (← operand inner false 1)
  | c :: rest =>
    match fallbackOf? c, if c = ':' then rest.head?.bind fallbackOf? else none with
    | some kind, _ => fallback false kind
    | none, some kind => fallback true kind
    | none, none =>
      if scan.extended then extendedUse inner
      else
        let _ ← operand inner quoted 0
        return .invalid
  | [] =>
    let _ ← operand inner quoted 0
    return .invalid

def isLength : Chars → Bool
  | c :: d :: _ => isNameChar c || (isSpecialParameter c && d == '\x7d')
  | _ => false

def item? (inner : Inner) : Parse (Option Word) := do
  if ← startsExtended "[" then
    skip 1
    return some (← inner.word .subscript)
  else return none

def braced (inner : Inner) (quoted : Bool) : Parse WordPart := do
  skip 2
  let scan ← get
  let wantsLength := scan.rest.head? = some '#' ∧ isLength (scan.rest.drop 1)
  let isIndirect := scan.extended ∧ scan.rest.head? = some '!' ∧
    (scan.rest.drop 1).head?.any fun c => isNameChar c || c == '#'
  if wantsLength ∨ isIndirect then skip 1
  match ← nameOrNumber with
  | none =>
    let _ ← operand inner quoted 0
    return .parameter "" none .invalid quoted
  | some name =>
    let item ← item? inner
    if isIndirect ∧ (← startsExtended "*\x7d" <||> startsExtended "@\x7d") then
      skip 2
      return .parameter name none .names quoted
    if wantsLength ∨ isIndirect then
      let closed := (← peek) = some '\x7d'
      let _ ← operand inner quoted 0
      let use : ParameterUse := if !closed then .invalid
        else if wantsLength then .length
        else if item.isSome then .keys else .indirect
      return .parameter name item use quoted
    else return .parameter name item (← use inner quoted) quoted

def dollar (inner : Inner) (e : Enclosure) : Parse Word := do
  let scan ← get
  let quoted := e.isQuoted
  match scan.rest.drop 1 with
  | '(' :: '(' :: _ =>
    skip 3
    return [.sum (← inner.word .sum) quoted]
  | '(' :: _ =>
    skip 2
    let script ← withoutPending inner.script
    if scan.extended ∧ (← token) = .ended then
      refuseOpen (← get).line ")" ""
    expectMark ")"
    return [.output script quoted]
  | '[' :: _ =>
    skip 1
    if scan.extended then
      skip 1
      return [.sum (← inner.word .brackets) quoted]
    else return [.text ['$'] quoted]
  | '\x7b' :: _ => return [← braced inner quoted]
  | c :: _ =>
    if isNameStart c then
      skip 1
      return [.parameter (String.ofList (← takeWhile isNameChar)) none .value quoted]
    else if c.isDigit ∨ isSpecialParameter c then
      skip 2
      return [.parameter (String.singleton c) none .value quoted]
    else if scan.extended && !quoted && c == '\x27' then
      skip 2
      let pieces ← collect escapedPiece
      skip 1
      return [.text pieces.flatten true]
    else if scan.extended && !quoted && c == '"' then
      skip 1
      return []
    else
      skip 1
      return [.text ['$'] quoted]
  | [] =>
    skip 1
    return [.text ['$'] quoted]

def startsGroup (c : Char) : Bool :=
  c == '?' || c == '*' || c == '+' || c == '@' || c == '!'

def isPlain (c : Char) : Bool :=
  !(isMeta c || c == '\\' || c == '$' || c == '\x60' || c == '\x27' || c == '"' || c == '\x7d' ||
    c == ']')

def part (inner : Inner) (e : Enclosure) (opened : Nat) : Parse (Option Word) := do
  let scan ← get
  if e = .bare ∧ (← startsExtended "<(") then
    skip 2
    let script ← withoutPending inner.script
    expectMark ")"
    return some [.file script]
  match e.ending? scan.rest, scan.rest with
  | some taken, _ =>
    skip taken
    return none
  | none, [] => cutShort opened e
  | none, '\\' :: c :: _ =>
    if c = '\n' then
      skip 2
      return some []
    else if e.isEscaped c then
      skip 2
      return some [.text [c] true]
    else
      skip 1
      return some [.text ['\\'] true]
  | none, '$' :: _ => return some (← dollar inner e)
  | none, '\x60' :: _ => return some [← backquoted inner e]
  | none, c :: behind =>
    if scan.groups ∧ !e.isQuoted ∧ startsGroup c ∧ behind.head? = some '(' then
      skip 2
      let w ← inner.word .group
      return some (.text [c, '('] false :: w ++ [.text [')'] false])
    else if c = '\x27' ∧ !e.isQuoted then return some [← singleQuoted]
    else if c = '"' ∧ (e = .sum ∨ e = .parens) then
      skip 1
      return some []
    else if c = '"' ∧ (!e.isQuoted ∨ e = .quotedBraces) then
      skip 1
      let w ← inner.word .quotes
      return some (if w.isEmpty then [.text [] true] else w)
    else if c = '(' ∧ (e = .sum ∨ e = .parens) then
      skip 1
      let w ← inner.word .parens
      return some (.text ['('] true :: w ++ [.text [')'] true])
    else if isPlain c ∧ !(scan.groups ∧ startsGroup c) then
      return some [.text (← takeWhile fun c => isPlain c && !(scan.groups && startsGroup c))
        e.isQuoted]
    else
      skip 1
      return some [.text [c] e.isQuoted]

def enclosed (inner : Inner) (e : Enclosure) : Parse Word := do
  let opened := (← get).line
  return Word.joined (← collect (part inner e opened)).flatten

def bareWord (inner : Inner) : Parse Word :=
  enclosed inner .bare

def stopText : Parse (Chars × Bool) := do
  let pieces ← collect (do
    match (← get).rest with
    | [] => return none
    | '\\' :: c :: _ =>
      skip 2
      return some (if c = '\n' then ([], false) else ([c], true))
    | c :: _ =>
      if c = '\x27' ∨ c = '"' then
        skip 1
        let s ← takeWhile (· != c)
        skip 1
        return some (s, true)
      else if isMeta c then return none
      else
        skip 1
        return some ([c], false))
  return (pieces.flatMap (·.1), pieces.any (·.2))

/-- A line of a text announced before, with its line feed, unless it is the end of the text. -/
def textLine (p : PendingText) : Parse (Option Chars) := do
  if (← peek).isNone then return none
  let line ← takeWhile (· != '\n')
  let feed := if (← peek).isSome then ['\n'] else []
  skip 1
  let line := if p.stripTabs then line.dropWhile (· == '\t') else line
  return if line = p.stop then none else some (line ++ feed)

def lineFeed (inner : Inner) : Parse Unit := do
  skip 1
  let pending := (← get).pending
  modify ({ · with pending := [] })
  for p in pending do
    let line := (← get).line
    let text := (← collect (textLine p)).flatten
    let w ← if p.quoted then pure [WordPart.text text true]
      else within text line (inner.word .hereText)
    modify fun scan => { scan with texts := scan.texts.setIfInBounds p.position w }

def skipLines (inner : Inner) : Parse Unit := do
  let _ ← collect (do
    if (← token) = .lineFeed then
      lineFeed inner
      return some ()
    else return none)

end CompileFlags.Shell.Grammar
