import CompileFlags.Shell.Bytes

set_option autoImplicit false

namespace CompileFlags.Shell

/-- A failure of a formula, without its text. Something is missing in front of so many lexemes, or a
digit is too great for its base. -/
inductive Formula.Fault where
  | expecting (what : String) (left : Nat)
  | divisionByZero
  | tooGreat (digits : Chars)
  | badNumber (text : Chars)
deriving DecidableEq

/-- A formula. Where its text is wrong it has a part that is refused: what stands before that part is
evaluated first, and can fail in its own way. -/
inductive Formula where
  | number (n : Int)
  | variable (name : String)
  | unary (op : String) (a : Formula)
  | binary (op : String) (a b : Formula)
  | choice (test yes no : Formula)
  | assign (name : String) (op : Option String) (value : Formula)
  | step (name : String) (by_ : Int) (givesOld : Bool)
  | refused (fault : Formula.Fault)
deriving Inhabited

namespace Formula

/-- A lexeme of a formula. -/
inductive Lexeme where
  | number (n : Int)
  | name (s : String)
  | op (s : String)
  | strange (c : Char)
  | tooGreat (digits : Chars)
deriving DecidableEq

def operators : List String :=
  ["<<=", ">>=", "**", "++", "--", "<<", ">>", "<=", ">=", "==", "!=", "&&", "||", "+=", "-=",
    "*=", "/=", "%=", "&=", "^=", "|=", "+", "-", "*", "/", "%", "<", ">", "=", "!", "~", "&", "^",
    "|", "?", ":", "(", ")", ","]

def extendedOperators : List String := ["**", "++", "--", ","]

def digitOf (c : Char) : Nat :=
  if c.isDigit then c.toNat - 0x30
  else if c.isUpper then c.toNat - 0x41 + 36
  else c.toNat - 0x61 + 10

def inBase (base : Nat) (ds : Chars) : Int :=
  ds.foldl (fun n d => n * base + digitOf d) 0

/-- The number at the front of a text that starts with a digit, and the rest. -/
def numberAt (extended : Bool) (s : Chars) : Int × Chars :=
  match s with
  | '0' :: x :: rest =>
    let hex := rest.takeWhile fun c => c.isDigit || ('a' ≤ c.toLower && c.toLower ≤ 'f')
    if (x = 'x' ∨ x = 'X') ∧ !hex.isEmpty then
      (inBase 16 (hex.map Char.toLower), rest.drop hex.length)
    else
      let octal := (x :: rest).takeWhile fun c => '0' ≤ c && c ≤ '7'
      (inBase 8 octal, (x :: rest).drop octal.length)
  | s =>
    let ds := s.takeWhile Char.isDigit
    let rest := s.drop ds.length
    match extended, rest with
    | true, '#' :: rest =>
      let digits := rest.takeWhile Char.isAlphanum
      (inBase (natOf ds) (if natOf ds ≤ 36 then digits.map Char.toLower else digits),
        rest.drop digits.length)
    | _, _ => (inBase 10 ds, rest)

def nameAt (extended : Bool) (s : Chars) : Chars :=
  let name := s.takeWhile isNameChar
  match extended, s.drop name.length with
  | true, '[' :: rest => name ++ ['['] ++ inBrackets 0 rest
  | _, _ => name
where
  inBrackets (depth : Nat) : Chars → Chars
    | [] => []
    | ']' :: rest => if depth = 0 then [']'] else ']' :: inBrackets (depth - 1) rest
    | '[' :: rest => '[' :: inBrackets (depth + 1) rest
    | c :: rest => c :: inBrackets depth rest

def lexemes (extended : Bool) : Nat → Chars → List Lexeme
  | 0, _ => []
  | _, [] => []
  | n + 1, c :: s =>
    if c = ' ' ∨ c = '\t' ∨ c = '\n' then lexemes extended n s
    else if c.isDigit then
      let (value, rest) := numberAt extended (c :: s)
      if extended ∧ rest.head?.any Char.isDigit then
        let digits := (c :: s).takeWhile Char.isAlphanum
        .tooGreat digits :: lexemes extended n ((c :: s).drop digits.length)
      else
        let value := if extended then value else min value 0x7FFFFFFFFFFFFFFF
        .number value :: lexemes extended n rest
    else if isNameStart c then
      let name := nameAt extended (c :: s)
      .name (String.ofList name) :: lexemes extended n ((c :: s).drop name.length)
    else
      match operators.find? fun op =>
        op.toList.isPrefixOf (c :: s) && (extended || !extendedOperators.contains op) with
      | some op => .op op :: lexemes extended n ((c :: s).drop op.length)
      | none => .strange c :: lexemes extended n s

def textFrom (extended : Bool) (left : Nat) (s : Chars) : Chars :=
  let starts := (List.range (s.length + 1)).filter fun n =>
    (lexemes extended (s.drop n).length (s.drop n)).length = max left 1 ∧
      !((s.drop n).head?.any fun c => isBlank c || c == '\n')
  match starts with
  | n :: _ => s.drop n
  | [] => s

abbrev Parts := StateM (List Lexeme)

def expected (what : String) : Parts Formula := do
  return .refused (.expecting what (← get).length)

def andThen (a b : Formula) : Formula :=
  .binary "," a b

def levelOf? : String → Option Nat
  | "||" => some 1
  | "&&" => some 2
  | "|" => some 3
  | "^" => some 4
  | "&" => some 5
  | "==" | "!=" => some 6
  | "<" | ">" | "<=" | ">=" => some 7
  | "<<" | ">>" => some 8
  | "+" | "-" => some 9
  | "*" | "/" | "%" => some 10
  | "**" => some 11
  | _ => none

def assignment? (op : String) : Option (Option String) :=
  if op = "=" then some none
  else if ["<=", ">=", "==", "!="].contains op then none
  else if op.endsWith "=" then some (some (String.ofList op.toList.dropLast)) else none

mutual

def operand : Nat → Parts Formula
  | 0 => expected "primary"
  | n + 1 => do
    match ← get with
    | .number value :: rest =>
      set rest
      return .number value
    | .name name :: .op "++" :: rest =>
      set rest
      return .step name 1 true
    | .name name :: .op "--" :: rest =>
      set rest
      return .step name (-1) true
    | .name name :: rest =>
      set rest
      return .variable name
    | .op "(" :: rest =>
      set rest
      let a ← sequence n
      match ← get with
      | .op ")" :: rest =>
        set rest
        return a
      | _ => return andThen a (← expected "')'")
    | .op "++" :: .name name :: rest =>
      set rest
      return .step name 1 false
    | .op "--" :: .name name :: rest =>
      set rest
      return .step name (-1) false
    | .op op :: rest =>
      if ["+", "-", "!", "~"].contains op then
        set rest
        return .unary op (← operand n)
      else expected "primary"
    | .tooGreat digits :: _ => return .refused (.tooGreat digits)
    | .strange _ :: _ | [] => expected "primary"

def joined : Nat → Nat → Formula → Parts Formula
  | 0, _, a => return a
  | n + 1, level, a => do
    match ← get with
    | .op op :: rest =>
      match levelOf? op with
      | none => return a
      | some l =>
        if l < level then return a
        else
          set rest
          let b ← joined n (if op = "**" then l else l + 1) (← operand n)
          joined n level (.binary op a b)
    | _ => return a

def whole : Nat → Parts Formula
  | 0 => expected "primary"
  | n + 1 => do
    match ← get with
    | .name name :: .op op :: rest =>
      match assignment? op with
      | some first =>
        set rest
        return .assign name first (← whole n)
      | none => conditional n
    | _ => conditional n

def conditional : Nat → Parts Formula
  | 0 => expected "primary"
  | n + 1 => do
    let a ← joined n 1 (← operand n)
    match ← get with
    | .op "?" :: rest =>
      set rest
      let yes ← branch n
      match ← get with
      | .op ":" :: rest =>
        set rest
        return .choice a yes (← branch n)
      | _ =>
        let missing ← expected "':'"
        return .choice a (andThen yes missing) missing
    | _ => return a

def branch : Nat → Parts Formula
  | 0 => expected "primary"
  | n + 1 => do
    match ← get with
    | [] | .op ":" :: _ => expected "expression"
    | _ => whole n

def sequence : Nat → Parts Formula
  | 0 => expected "primary"
  | n + 1 => do
    let a ← whole n
    match ← get with
    | .op "," :: rest =>
      set rest
      return andThen a (← sequence n)
    | _ => return a

end

def parse (extended : Bool) (s : Chars) : Formula :=
  match lexemes extended s.length s with
  | [] => if extended then .number 0 else .refused (.expecting "primary" 0)
  | ls =>
    let (a, rest) := (sequence (6 * ls.length + 6)).run ls
    match rest with
    | [] => a
    | .strange _ :: _ => andThen a (.refused (.expecting "operator" rest.length))
    | _ => andThen a (.refused (.expecting "EOF" rest.length))

def fault? : Formula → Option Fault
  | .number _ | .variable _ | .step .. => none
  | .unary _ a | .assign _ _ a => a.fault?
  | .binary _ a b => a.fault?.or b.fault?
  | .choice test yes no => (test.fault?.or yes.fault?).or no.fault?
  | .refused fault => some fault

def wrap (n : Int) : Int := n.bmod 0x10000000000000000

def truth (b : Bool) : Int := if b then 1 else 0

def bits (n : Int) : Nat := (n % 0x10000000000000000).toNat

def applyBinary (op : String) (a b : Int) : Except Fault Int :=
  match op with
  | "+" => .ok (wrap (a + b))
  | "-" => .ok (wrap (a - b))
  | "*" => .ok (wrap (a * b))
  | "/" => if b = 0 then .error .divisionByZero else .ok (wrap (a.tdiv b))
  | "%" => if b = 0 then .error .divisionByZero else .ok (wrap (a.tmod b))
  | "**" => .ok (if b < 0 then 0 else wrap (Int.pow a (min b 4096).toNat))
  | "<<" => .ok (wrap (Int.ofNat (bits a <<< (bits b % 64))))
  | ">>" => .ok (a.fdiv (Int.pow 2 (bits b % 64)))
  | "<" => .ok (truth (a < b))
  | ">" => .ok (truth (b < a))
  | "<=" => .ok (truth (a ≤ b))
  | ">=" => .ok (truth (b ≤ a))
  | "==" => .ok (truth (a = b))
  | "!=" => .ok (truth (a ≠ b))
  | "&" => .ok (wrap (Int.ofNat (bits a &&& bits b)))
  | "^" => .ok (wrap (Int.ofNat (bits a ^^^ bits b)))
  | "|" => .ok (wrap (Int.ofNat (bits a ||| bits b)))
  | _ => .ok b

def applyUnary (op : String) (a : Int) : Int :=
  match op with
  | "-" => wrap (-a)
  | "!" => truth (a = 0)
  | "~" => -a - 1
  | _ => a

abbrev Evaluation := StateT (List (String × Int)) (Except Fault)

def valueOf (old : String → Except Fault Int) (name : String) : Evaluation Int := do
  match (← get).lookup name with
  | some n => return n
  | none => old name

def setTo (name : String) (n : Int) : Evaluation Int := do
  modify ((name, n) :: ·)
  return n

/-- Pass over a part that is not evaluated. It may be anything but refused. -/
def skip (a : Formula) : Evaluation Unit := do
  match a.fault? with
  | some fault => throw fault
  | none => return

def eval (old : String → Except Fault Int) : Formula → Evaluation Int
  | .number n => return wrap n
  | .variable name => valueOf old name
  | .unary op a => return applyUnary op (← eval old a)
  | .binary op a b => do
    let x ← eval old a
    if op = "&&" then
      if x = 0 then
        skip b
        return 0
      else return truth ((← eval old b) ≠ 0)
    else if op = "||" then
      if x ≠ 0 then
        skip b
        return 1
      else return truth ((← eval old b) ≠ 0)
    else
      let y ← eval old b
      applyBinary op x y
  | .choice test yes no => do
    if (← eval old test) ≠ 0 then
      let x ← eval old yes
      skip no
      return x
    else
      skip yes
      eval old no
  | .assign name none value => do setTo name (← eval old value)
  | .assign name (some op) value => do
    let x ← valueOf old name
    let y ← eval old value
    setTo name (← applyBinary op x y)
  | .step name d givesOld => do
    let x ← valueOf old name
    let y ← setTo name (wrap (x + d))
    return if givesOld then x else y
  | .refused fault => throw fault

end Formula

end CompileFlags.Shell
