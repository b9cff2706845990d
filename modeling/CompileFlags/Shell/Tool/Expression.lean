import CompileFlags.Shell.Regex
import CompileFlags.Shell.Tool.Basic
import CompileFlags.Text.Find

set_option autoImplicit false

namespace CompileFlags.Shell.Tool

namespace Expression

/-- A part of the grammar takes arguments from the front; its failures are reasons. -/
abbrev Parts := StateT (List Chars × Chars) (Except Chars)

def int? (s : Chars) : Option Int :=
  match s with
  | '-' :: ds => (nat? ds).map fun n => -(n : Int)
  | ds => (nat? ds).map Int.ofNat

def number (s : Chars) : Except Chars Int :=
  match int? s with
  | some n => .ok n
  | none => .error (charsOf "non-integer argument")

def isNull (s : Chars) : Bool :=
  s.isEmpty || int? s = some 0

def next : Parts Chars := do
  let (args, last) ← get
  match args with
  | arg :: rest =>
    set (rest, arg)
    return arg
  | [] =>
    if last.isEmpty then throw (charsOf "missing operand")
    else throw (charsOf "syntax error: missing argument after " ++ quoted last)

def operator? (ops : List String) : Parts (Option String) := do
  let (args, _) ← get
  match args with
  | arg :: rest =>
    let op := String.ofList arg
    if ops.contains op then
      set (rest, arg)
      return some op
    else return none
  | [] => return none

/-- The part of a text that an expression matches at its start: a group, or a length. -/
def matched (s pattern : Chars) : Except Chars Chars :=
  match Regex.parse? false pattern with
  | none => .error (charsOf "Invalid regular expression")
  | some r =>
    let subject : Regex.Subject := { text := s.toArray }
    let hasGroup := Text.contains ['\\', '('] pattern
    match r.matchAt? subject 0 with
    | some spot =>
      if hasGroup then .ok ((spot.groupText subject 1).getD []) else .ok (natText spot.position)
    | none => .ok (if hasGroup then [] else ['0'])

def compared (op : String) (a b : Chars) : Bool :=
  let order : Ordering := match int? a, int? b with
    | some m, some n => compare m n
    | _, _ => if a < b then .lt else if b < a then .gt else .eq
  match op with
  | "<" => order == .lt
  | "<=" => order != .gt
  | ">" => order == .gt
  | ">=" => order != .lt
  | "!=" => order != .eq
  | _ => order == .eq

def computed (op : String) (a b : Chars) : Except Chars Chars := do
  let m ← number a
  let n ← number b
  match op with
  | "+" => return intText (m + n)
  | "-" => return intText (m - n)
  | "*" => return intText (m * n)
  | _ =>
    if n = 0 then throw (charsOf "division by zero")
    else return intText (if op = "/" then m.tdiv n else m.tmod n)

def levels : List (List String) :=
  [["|"], ["&"], ["<", "<=", "=", "==", "!=", ">=", ">"], ["+", "-"], ["*", "/", "%"], [":"]]

def joined (op : String) (a b : Chars) : Except Chars Chars :=
  match op with
  | "|" => .ok (if !isNull a then a else if isNull b then ['0'] else b)
  | "&" => .ok (if isNull a ∨ isNull b then ['0'] else a)
  | ":" => matched a b
  | op =>
    if (levels.getD 2 []).contains op then .ok (if compared op a b then ['1'] else ['0'])
    else computed op a b

mutual

def value : Nat → List (List String) → Parts Chars
  | 0, _ => throw (charsOf "syntax error")
  | n + 1, [] => primary n
  | n + 1, ops :: rest => do
    let a ← value n rest
    more n ops rest a

def more : Nat → List String → List (List String) → Chars → Parts Chars
  | 0, _, _, a => return a
  | n + 1, ops, rest, a => do
    match ← operator? ops with
    | none => return a
    | some op =>
      let b ← value n rest
      more n ops rest (← joined op a b)

def primary : Nat → Parts Chars
  | 0 => throw (charsOf "syntax error")
  | n + 1 => do
    let arg ← next
    match String.ofList arg with
    | "+" => next
    | "(" =>
      let a ← value n levels
      match ← operator? [")"] with
      | some _ => return a
      | none => throw (charsOf "syntax error: expecting ')' after " ++ quoted (← get).2)
    | "length" => return natText (← primary n).length
    | "match" =>
      let a ← primary n
      let b ← primary n
      matched a b
    | "index" =>
      let a ← primary n
      let b ← primary n
      let before := a.takeWhile fun c => !b.contains c
      return natText (if before.length = a.length then 0 else before.length + 1)
    | "substr" =>
      let a ← primary n
      let start := int? (← primary n)
      let length := int? (← primary n)
      match start, length with
      | some start, some length =>
        if start ≤ 0 ∨ length ≤ 0 then return []
        else return (a.drop (start.toNat - 1)).take length.toNat
      | _, _ => return []
    | _ => return arg

end

def eval (args : List Chars) : Except Chars Chars := do
  let (found, rest, _) ← (value (20 * args.length + 20) levels).run (args, [])
  match rest with
  | [] => return found
  | arg :: _ => throw (charsOf "syntax error: unexpected argument " ++ quoted arg)

end Expression

def expr : Tool := fun _ args => do
  let args := if args.head? = some ['-', '-'] then args.drop 1 else args
  if args.isEmpty then misuse (charsOf "missing operand") 2
  else match Expression.eval args with
    | .ok s =>
      putLine s
      setStatus (if Expression.isNull s then 1 else 0)
    | .error reason => fail reason 2

end CompileFlags.Shell.Tool
