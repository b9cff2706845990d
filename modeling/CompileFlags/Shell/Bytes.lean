import CompileFlags.Text.Lines
import CompileFlags.Text.Utf8

set_option autoImplicit false

namespace CompileFlags.Shell

abbrev Chars := List Char

def charsOfBytes (bytes : List UInt8) : Chars :=
  bytes.map fun b => Char.ofNat b.toNat

def bytesOfChars (s : Chars) : List UInt8 :=
  s.map fun c => UInt8.ofNat c.toNat

def charsOf (s : String) : Chars :=
  charsOfBytes (Text.Utf8.encode s)

def textOf (s : Chars) : String :=
  Text.Utf8.decodeLossy (bytesOfChars s)

def isNameStart (c : Char) : Bool := c.isAlpha || c == '_'

def isNameChar (c : Char) : Bool := c.isAlphanum || c == '_'

def isName : Chars → Bool
  | [] => false
  | c :: rest => isNameStart c && rest.all isNameChar

def isBlank (c : Char) : Bool := c == ' ' || c == '\t'

def isMeta (c : Char) : Bool :=
  isBlank c || c == '\n' || c == ';' || c == '&' || c == '|' || c == '<' || c == '>' ||
    c == '(' || c == ')'

/-- The parameters that are no variables. -/
def isSpecialParameter (c : Char) : Bool :=
  c == '*' || c == '@' || c == '#' || c == '?' || c == '$' || c == '!' || c == '-'

def natOf (digits : Chars) : Nat :=
  digits.foldl (fun n d => n * 10 + (d.toNat - 0x30)) 0

/-- A text of digits only, as a number. -/
def nat? (s : Chars) : Option Nat :=
  if !s.isEmpty && s.all Char.isDigit then some (natOf s) else none

def isHexDigit (c : Char) : Bool :=
  c.isDigit || ('a' ≤ c && c ≤ 'f') || ('A' ≤ c && c ≤ 'F')

def hexValue (ds : Chars) : Nat :=
  ds.foldl (fun n d =>
    n * 16 + if d.isDigit then d.toNat - 0x30 else d.toLower.toNat - 0x61 + 10) 0

def isOctalDigit (c : Char) : Bool := '0' ≤ c && c ≤ '7'

def octalValue (ds : Chars) : Nat :=
  ds.foldl (fun n d => n * 8 + (d.toNat - 0x30)) 0

def letterEscape? : Char → Option Char
  | 'a' => some '\x07'
  | 'b' => some '\x08'
  | 'e' => some '\x1b'
  | 'f' => some '\x0c'
  | 'n' => some '\n'
  | 'r' => some '\r'
  | 't' => some '\t'
  | 'v' => some '\x0b'
  | '\\' => some '\\'
  | _ => none

def natText (n : Nat) : Chars := (toString n).toList

def intText (n : Int) : Chars := (toString n).toList

def trimLines (s : Chars) : Chars :=
  (s.reverse.dropWhile (· == '\n')).reverse

def linesOf (s : Chars) : List Chars :=
  match Text.splitOn '\n' s |>.reverse with
  | [] :: before => before.reverse
  | parts => parts.reverse

end CompileFlags.Shell
