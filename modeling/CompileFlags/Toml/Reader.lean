import CompileFlags.Text.Reader
import CompileFlags.Toml.Fields
import CompileFlags.Toml.Scalar

set_option autoImplicit false

namespace CompileFlags.Toml

open Text Text.Reader

def isControl (c : Char) : Bool :=
  (c.toNat < 0x20 && c != '\t') || c.toNat == 0x7f

def isBareKeyChar (c : Char) : Bool :=
  c.isAlphanum || c == '_' || c == '-'

def isSpace (c : Char) : Bool := c == ' ' || c == '\t'

def spaces : Reader Unit := do
  let _ ← whileChars isSpace

def newline : Reader Unit := do
  match ← next with
  | '\n' => return
  | '\r' => char '\n'
  | _ => failure

def comment : Reader Unit := do
  char '#'
  let _ ← whileChars fun c => !isControl c

def gap : Reader Unit := do
  let _ ← many (do
    match ← peek with
    | some '#' => comment; newline
    | some c => if isSpace c then spaces else newline
    | none => failure)

def hexValue (c : Char) : Nat :=
  if c.isDigit then c.toNat - 0x30 else if 'a' ≤ c then c.toNat - 0x57 else c.toNat - 0x37

def hexChar : Nat → Nat → Reader Char
  | 0, n => if n.isValidChar then return Char.ofNat n else failure
  | digits + 1, n => do
    let c ← satisfy isHexDigit
    hexChar digits (n * 16 + hexValue c)

def escape : Reader Char := do
  match ← next with
  | 'b' => return '\x08'
  | 't' => return '\t'
  | 'n' => return '\n'
  | 'f' => return '\x0c'
  | 'r' => return '\r'
  | 'e' => return '\x1b'
  | '"' => return '"'
  | '\\' => return '\\'
  | 'x' => hexChar 2 0
  | 'u' => hexChar 4 0
  | 'U' => hexChar 8 0
  | _ => failure

def basicChar : Reader Char := do
  let c ← next
  if c = '\\' then escape
  else if c = '"' ∨ isControl c then failure
  else return c

def literalChar (c : Char) : Bool :=
  c != '\x27' && !isControl c

def lineString : Reader String := do
  match ← next with
  | '"' =>
    let cs ← many basicChar
    char '"'
    return String.ofList cs
  | '\x27' =>
    let cs ← whileChars literalChar
    char '\x27'
    return String.ofList cs
  | _ => failure

/-- A part of a string over several lines: one or two quotes that do not end it, an escape, a
backslash that swallows blanks and ends of lines, an end of line, or any other character. -/
def blockPart (quote : Char) : Reader (List Char) := do
  let c ← next
  if c = quote then
    match ← peek with
    | some d =>
      if d = quote then
        let _ ← next
        match ← peek with
        | some e => if e = quote then failure else return [quote, quote]
        | none => failure
      else return [quote]
    | none => failure
  else if c = '\n' then return ['\n']
  else if c = '\r' then
    char '\n'
    return ['\r', '\n']
  else if c = '\\' ∧ quote = '"' then
    match ← tryRead (do spaces; newline) with
    | some _ =>
      let _ ← many (do
        match ← peek with
        | some c => if isSpace c then spaces else newline
        | none => failure)
      return []
    | none => return [← escape]
  else if isControl c then failure
  else return [c]

/-- The quotes that end a string over several lines, after up to two that belong to it. -/
def blockEnd (quote : Char) : Reader (List Char) := do
  let quotes ← whileChars (· == quote)
  if 3 ≤ quotes.length ∧ quotes.length ≤ 5 then return quotes.drop 3 else failure

def blockString (quote : Char) : Reader String := do
  literal [quote, quote, quote]
  let _ ← tryRead newline
  let parts ← many (blockPart quote)
  return String.ofList (parts.flatten ++ (← blockEnd quote))

def isBlock (s : List Char) : Bool :=
  match s with
  | a :: b :: c :: _ => (a == '"' || a == '\x27') && a == b && b == c
  | _ => false

def anyString : Reader String := do
  let s ← get
  if isBlock s then blockString (s.headD '"') else lineString

def simpleKey : Reader String := do
  match ← peek with
  | some c =>
    if c = '"' ∨ c = '\x27' then lineString
    else return String.ofList (← someChars isBareKeyChar)
  | none => failure

/-- How deep arrays and inline tables may be nested, and how many parts a key may have. -/
def depthLimit : Nat := 80

def key : Reader (List String) := do
  let first ← simpleKey
  let rest ← many (do
    spaces
    char '.'
    spaces
    simpleKey)
  if rest.length < depthLimit then return first :: rest else failure

/-- A scalar goes on to the next blank, end of line, comment or mark of the grammar. -/
def isScalarChar (c : Char) : Bool :=
  !" \t\r\n#=,[]".toList.contains c && c != '\x7b' && c != '\x7d'

/-- A number, truth value or date. A date may have its time behind a blank. -/
def scalar : Reader Toml := do
  let s ← someChars isScalarChar
  let time ←
    if isDay s then
      tryRead (do
        char ' '
        let r ← someChars isScalarChar
        if (r.head?.map Char.isDigit).getD false then return ' ' :: r else failure)
    else pure none
  match scalar? (s ++ time.getD []) with
  | some v => return v
  | none => failure

def items {α : Type} (item : Reader α) : Reader (List α) := do
  gap
  match ← tryRead item with
  | none => return []
  | some first =>
    let rest ← many (do
      gap
      char ','
      gap
      item)
    gap
    let _ ← tryRead (do char ','; gap)
    return first :: rest

def value : Nat → Reader Toml
  | 0 => do
    match ← peek with
    | some '[' | some '\x7b' => failure
    | some c => if c = '"' ∨ c = '\x27' then return .string (← anyString) else scalar
    | none => failure
  | depth + 1 => do
    match ← peek with
    | some '[' =>
      char '['
      let vs ← items (value depth)
      char ']'
      return .array vs
    | some '\x7b' =>
      char '\x7b'
      let fields ← items (do
        let k ← key
        gap
        char '='
        gap
        return (k, ← value depth))
      char '\x7d'
      match fields.foldlM (fun fs a => assign a.2 a.1 fs) [] with
      | some fs => return .table (fieldsToToml fs)
      | none => failure
    | some c => if c = '"' ∨ c = '\x27' then return .string (← anyString) else scalar
    | none => failure

inductive Statement where
  | assignment (key : List String) (v : Toml)
  | header (key : List String)
  | element (key : List String)

def assignment : Reader Statement := do
  let k ← key
  spaces
  char '='
  spaces
  return .assignment k (← value depthLimit)

def header : Reader Statement := do
  char '['
  match ← peek with
  | some '[' =>
    char '['
    spaces
    let k ← key
    spaces
    char ']'
    char ']'
    return .element k
  | _ =>
    spaces
    let k ← key
    spaces
    char ']'
    return .header k

def statement : Reader (Option Statement) := do
  match ← peek with
  | some '[' => return some (← header)
  | some '#' | some '\n' | some '\r' | none => return none
  | some _ => return some (← assignment)

def line : Reader (Option Statement) := do
  spaces
  let s ← statement
  spaces
  let _ ← tryRead comment
  if ← atEnd then return s
  newline
  return s

def statements? (s : List Char) : Option (List Statement) :=
  let s := match s with
    | '\ufeff' :: r => r
    | s => s
  (whole? (many line) s).map fun found => found.filterMap id

end CompileFlags.Toml
