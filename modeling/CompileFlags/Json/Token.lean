import CompileFlags.Json.Value

set_option autoImplicit false

/-!
# JSON tokens

The characters of a JSON text as tokens. White space is space, tab, line feed and carriage return.
A string admits no control character below the space and only the eight short escapes and `\u`; a
number has no leading zero and no bare point.
-/

namespace CompileFlags.Json

inductive Token where
  | openArray
  | closeArray
  | openObject
  | closeObject
  | comma
  | colon
  | scalar (v : Json)

/-- A part of a string: a character, or a code unit given in hexadecimal. -/
inductive Piece where
  | char (c : Char)
  | unit (n : Nat)

def Piece.chars? : List Piece → Option (List Char)
  | [] => some []
  | .char c :: rest => (chars? rest).map (c :: ·)
  | .unit n :: rest =>
    if 0xd800 ≤ n ∧ n ≤ 0xdbff then
      match rest with
      | .unit m :: rest =>
        if 0xdc00 ≤ m ∧ m ≤ 0xdfff then
          (chars? rest).map (Char.ofNat (0x10000 + (n - 0xd800) * 0x400 + (m - 0xdc00)) :: ·)
        else none
      | _ => none
    else if 0xdc00 ≤ n ∧ n ≤ 0xdfff then none
    else (chars? rest).map (Char.ofNat n :: ·)

def hexDigit? (c : Char) : Option Nat :=
  if '0' ≤ c ∧ c ≤ '9' then some (c.toNat - 0x30)
  else if 'a' ≤ c ∧ c ≤ 'f' then some (c.toNat - 0x57)
  else if 'A' ≤ c ∧ c ≤ 'F' then some (c.toNat - 0x37)
  else none

def escape? : Char → Option Char
  | '"' => some '"'
  | '\\' => some '\\'
  | '/' => some '/'
  | 'b' => some '\x08'
  | 'f' => some '\x0c'
  | 'n' => some '\n'
  | 'r' => some '\r'
  | 't' => some '\t'
  | _ => none

def isSpace (c : Char) : Bool :=
  c == ' ' || c == '\t' || c == '\n' || c == '\r'

def isNumberChar (c : Char) : Bool :=
  c.isDigit || c == '-' || c == '+' || c == '.' || c == 'e' || c == 'E'

def isExponent : List Char → Bool
  | [] => true
  | c :: r =>
    (c == 'e' || c == 'E') &&
      match r with
      | '+' :: ds | '-' :: ds => !ds.isEmpty && ds.all Char.isDigit
      | ds => !ds.isEmpty && ds.all Char.isDigit

def isFraction : List Char → Bool
  | '.' :: r =>
    let ds := r.takeWhile Char.isDigit
    !ds.isEmpty && isExponent (r.drop ds.length)
  | r => isExponent r

def isNumber (s : List Char) : Bool :=
  let s := match s with
    | '-' :: r => r
    | s => s
  match s with
  | '0' :: r => isFraction r
  | s =>
    let ds := s.takeWhile Char.isDigit
    !ds.isEmpty && isFraction (s.drop ds.length)

def word? (w : List Char) : Option Json :=
  if w = "null".toList then some .null
  else if w = "true".toList then some (.bool true)
  else if w = "false".toList then some (.bool false)
  else none

def mark? : Char → Option Token
  | '[' => some .openArray
  | ']' => some .closeArray
  | '\x7b' => some .openObject
  | '\x7d' => some .closeObject
  | ',' => some .comma
  | ':' => some .colon
  | _ => none

/-- The reader between tokens, or inside one with what it has read of it, last first. -/
inductive Reading where
  | between
  | word (read : List Char)
  | number (read : List Char)
  | string (read : List Piece)
  | escape (read : List Piece)
  | hex (read : List Piece) (digits value : Nat)

def tokensFrom : Reading → List Char → Option (List Token)
  | .between, [] => some []
  | .word w, [] => (word? w.reverse).map fun v => [.scalar v]
  | .number ds, [] => if isNumber ds.reverse then some [.scalar .number] else none
  | _, [] => none
  | .between, c :: r => start c r
  | .word w, c :: r =>
    if c.isAlpha then tokensFrom (.word (c :: w)) r
    else do
      let v ← word? w.reverse
      return .scalar v :: (← start c r)
  | .number ds, c :: r =>
    if isNumberChar c then tokensFrom (.number (c :: ds)) r
    else if isNumber ds.reverse then (start c r).map (.scalar .number :: ·)
    else none
  | .string read, c :: r =>
    if c = '"' then
      let content := (Piece.chars? read.reverse).map String.ofList
      (tokensFrom .between r).map (.scalar (.string content) :: ·)
    else if c = '\\' then tokensFrom (.escape read) r
    else if c.toNat < 0x20 then none
    else tokensFrom (.string (.char c :: read)) r
  | .escape read, c :: r =>
    if c = 'u' then tokensFrom (.hex read 4 0) r
    else match escape? c with
      | some e => tokensFrom (.string (.char e :: read)) r
      | none => none
  | .hex read digits value, c :: r =>
    match hexDigit? c with
    | none => none
    | some d =>
      let value := value * 16 + d
      if digits ≤ 1 then tokensFrom (.string (.unit value :: read)) r
      else tokensFrom (.hex read (digits - 1) value) r
where
  start (c : Char) (r : List Char) : Option (List Token) :=
    if isSpace c then tokensFrom .between r
    else if c = '"' then tokensFrom (.string []) r
    else if c = '-' ∨ c.isDigit then tokensFrom (.number [c]) r
    else if c.isAlpha then tokensFrom (.word [c]) r
    else match mark? c with
      | some t => (tokensFrom .between r).map (t :: ·)
      | none => none

def tokens? (s : List Char) : Option (List Token) :=
  tokensFrom .between s

end CompileFlags.Json
