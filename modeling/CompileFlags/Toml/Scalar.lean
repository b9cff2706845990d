import CompileFlags.Text.Lines
import CompileFlags.Toml.Value

set_option autoImplicit false

namespace CompileFlags.Toml

def isHexDigit (c : Char) : Bool :=
  c.isDigit || ('a' ≤ c && c ≤ 'f') || ('A' ≤ c && c ≤ 'F')

def isOctalDigit (c : Char) : Bool := '0' ≤ c && c ≤ '7'

def isBinaryDigit (c : Char) : Bool := c == '0' || c == '1'

def dropSign : List Char → List Char
  | '+' :: r | '-' :: r => r
  | s => s

def endsIn (p : Char → Bool) (c : Option Char) : Bool :=
  (c.map p).getD false

/-- Underscores stand alone and between characters of a class. What stands before the first one is
free if it is a single character, and so is the end of the text. -/
def isGrouped (p : Char → Bool) (s : List Char) : Bool :=
  match Text.splitOn '_' s with
  | [] | [_] => true
  | first :: rest =>
    (first.length = 1 || endsIn p first.getLast?) &&
      rest.all (fun part => endsIn p part.head?) &&
      rest.dropLast.all (fun part => endsIn p part.getLast?)

/-- A text in two at the first character of a class, which belongs to the second part. -/
def splitAt (p : Char → Bool) (s : List Char) : List Char × List Char :=
  s.span fun c => !p c

def isRadixed (p : Char → Bool) (s : List Char) : Bool :=
  s.all (fun c => p c || c == '_') && isGrouped p s

/-- A decimal integer: digits alone, or some that an underscore follows. What comes after the
underscore is read as digits of any base where it touches an underscore, and not at all elsewhere,
as long as it does not look like a float. -/
def isDecimal (s : List Char) : Bool :=
  let value := dropSign s
  let (digits, rest) := splitAt (fun c => !c.isDigit) value
  match rest with
  | [] => !digits.isEmpty && (digits.length = 1 || digits.head? != some '0')
  | c :: _ =>
    c == '_' && digits.head? != some '0' && isGrouped isHexDigit s &&
      !rest.any fun c => c == '.' || c == 'e' || c == 'E'

def isInteger (s : List Char) : Bool :=
  match s with
  | '0' :: 'x' :: r => isRadixed isHexDigit r
  | '0' :: 'o' :: r => isRadixed isOctalDigit r
  | '0' :: 'b' :: r => isRadixed isBinaryDigit r
  | s => isDecimal s

def isDigits (s : List Char) : Bool :=
  s.any Char.isDigit && s.all fun c => c.isDigit || c == '_'

def isExponent : List Char → Bool
  | [] => true
  | _ :: r => isDigits (dropSign r)

def isFloat (s : List Char) : Bool :=
  let value := dropSign s
  if value = "inf".toList ∨ value = "nan".toList then true
  else
    let (mantissa, exponent) := splitAt (fun c => c == 'e' || c == 'E') value
    let (whole, fraction) := splitAt (· == '.') mantissa
    isDigits whole && (whole.head? != some '0' || whole.countP Char.isDigit == 1) &&
      isExponent exponent && isGrouped Char.isDigit s &&
      match fraction with
      | [] => !exponent.isEmpty
      | _ :: digits => isDigits digits

def number? (digits : Nat) (s : List Char) : Option Nat :=
  if s.length = digits ∧ s.all Char.isDigit then
    some (s.foldl (fun n d => n * 10 + (d.toNat - 0x30)) 0)
  else none

def daysIn (year month : Nat) : Nat :=
  if month = 2 then
    if year % 4 = 0 ∧ (year % 100 ≠ 0 ∨ year % 400 = 0) then 29 else 28
  else if month ∈ [4, 6, 9, 11] then 30
  else 31

def isDay : List Char → Bool
  | [a, b, c, d, '-', e, f, '-', g, h] =>
    match number? 4 [a, b, c, d], number? 2 [e, f], number? 2 [g, h] with
    | some year, some month, some day =>
      1 ≤ month && month ≤ 12 && 1 ≤ day && day ≤ daysIn year month
    | _, _, _ => false
  | _ => false

def isBelow (bound : Nat) (s : List Char) : Bool :=
  match number? 2 s with
  | some n => n < bound
  | none => false

def isTime : List Char → Bool
  | [a, b, ':', c, d] => isBelow 24 [a, b] && isBelow 60 [c, d]
  | a :: b :: ':' :: c :: d :: ':' :: e :: f :: r =>
    isBelow 24 [a, b] && isBelow 60 [c, d] && isBelow 61 [e, f] &&
      match r with
      | [] => true
      | '.' :: digits => !digits.isEmpty && digits.all Char.isDigit
      | _ => false
  | _ => false

def isOffset : List Char → Bool
  | [] | ['Z'] | ['z'] => true
  | [sign, a, b, ':', c, d] =>
    (sign == '+' || sign == '-') && isBelow 24 [a, b] && isBelow 60 [c, d]
  | _ => false

def isDate (s : List Char) : Bool :=
  if isTime s || isDay s then true
  else match s.drop 10 with
    | separator :: rest =>
      let (time, offset) := splitAt (fun c => c == 'Z' || c == 'z' || c == '+' || c == '-') rest
      (separator == 'T' || separator == 't' || separator == ' ') &&
        isDay (s.take 10) && isTime time && isOffset offset
    | [] => false

def scalar? (s : List Char) : Option Toml :=
  if s = "true".toList then some (.boolean true)
  else if s = "false".toList then some (.boolean false)
  else if isInteger s then some .integer
  else if isFloat s then some .float
  else if isDate s then some .date
  else none

end CompileFlags.Toml
