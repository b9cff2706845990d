import CompileFlags.Disk.World
import CompileFlags.Shell.Bytes

set_option autoImplicit false

namespace CompileFlags.Shell

open Disk

namespace Test

/-- What an argument can be. -/
inductive Sign where
  | ended
  | operand
  | open_
  | close
  | negation
  | both
  | either
  | unary (op : String)
  | binary (op : String)
deriving DecidableEq

def unaryOperators : List String :=
  ["-b", "-c", "-d", "-e", "-f", "-g", "-G", "-h", "-k", "-L", "-n", "-O", "-p", "-r", "-S", "-s",
    "-t", "-u", "-w", "-x", "-z"]

def binaryOperators : List String :=
  ["=", "!=", "<", ">", "-eq", "-ne", "-lt", "-le", "-gt", "-ge", "-ef", "-nt", "-ot"]

def signOf (extended : Bool) (s : Chars) : Sign :=
  let op := String.ofList s
  if op = "(" then .open_
  else if op = ")" then .close
  else if op = "!" then .negation
  else if op = "-a" then .both
  else if op = "-o" then .either
  else if unaryOperators.contains op then .unary op
  else if binaryOperators.contains op || (extended && op == "==") then .binary op
  else .operand

def isBinary : Sign → Bool
  | .binary _ => true
  | _ => false

/-- The sign of the first argument, seen with what follows: an operator is an operand where nothing
or a comparison comes after it. -/
def lex (extended : Bool) : List Chars → Sign
  | [] => .ended
  | s :: rest =>
    match signOf extended s with
    | .unary op =>
      match rest with
      | [] => .operand
      | [_] => .unary op
      | t :: _ => if isBinary (signOf extended t) then .operand else .unary op
    | .open_ => if rest.isEmpty then .operand else .open_
    | sign => sign

def number (extended : Bool) (s : Chars) : Except Chars Int :=
  let blank (c : Char) := isBlank c || c == '\n'
  let trimmed := ((s.dropWhile blank).reverse.dropWhile blank).reverse
  let (negative, ds) := match trimmed with
    | '-' :: ds => (true, ds)
    | '+' :: ds => (false, ds)
    | ds => (false, ds)
  match (nat? ds).filter (· < 0x8000000000000000) with
  | some n => .ok (if negative then -n else n)
  | none =>
    if extended then .error (s ++ charsOf ": integer expression expected")
    else .error (charsOf "Illegal number: " ++ s)

def isNull (w : World) (p : Path) : Bool :=
  match w.place .follow p with
  | .ok place => place == ["dev", "null"]
  | .error _ => false

def isStream (w : World) (p : Path) : Bool :=
  match w.place .follow p with
  | .ok place => place.dropLast == ["dev"] && place != ["dev", "null"]
  | .error _ => false

def allows (right : Rights → Bool) (w : World) (p : Path) : Bool :=
  match w.node .follow p with
  | .ok n => right n.rights
  | .error _ => false

def hasContent (w : World) (p : Path) : Bool :=
  match w.node .follow p with
  | .ok (.file content _) => !content.isEmpty
  | .ok n => n.isFolder
  | .error _ => false

def isLink (w : World) (p : Path) : Bool :=
  match w.node .keep p with
  | .ok (.link _) => true
  | _ => false

def property (w : World) (op : String) (s : Chars) : Bool :=
  let p : Path := ⟨textOf s⟩
  match op with
  | "-n" => !s.isEmpty
  | "-z" => s.isEmpty
  | "-e" | "-O" | "-G" => w.hasPath p
  | "-r" => allows Rights.read w p
  | "-w" => allows Rights.write w p
  | "-f" => w.isFile p && !isNull w p && !isStream w p
  | "-d" => w.isFolder p
  | "-x" => allows Rights.execute w p
  | "-s" => hasContent w p
  | "-h" | "-L" => isLink w p
  | "-c" => isNull w p
  | "-p" => w.isFile p && isStream w p
  | _ => false

def comparison (w : World) (extended : Bool) (op : String) (a b : Chars) : Except Chars Bool := do
  match op with
  | "=" | "==" => return a == b
  | "!=" => return a != b
  | "<" => return decide (a < b)
  | ">" => return decide (b < a)
  | "-ef" =>
    match w.place .follow ⟨textOf a⟩, w.place .follow ⟨textOf b⟩ with
    | .ok x, .ok y => return x == y && (w.tree.at? x).isSome
    | _, _ => return false
  | "-nt" => return w.hasPath ⟨textOf a⟩ && !w.hasPath ⟨textOf b⟩
  | "-ot" => return w.hasPath ⟨textOf b⟩ && !w.hasPath ⟨textOf a⟩
  | op =>
    let x ← number extended a
    let y ← number extended b
    match op with
    | "-eq" => return x == y
    | "-ne" => return x != y
    | "-lt" => return x < y
    | "-le" => return x ≤ y
    | "-gt" => return y < x
    | _ => return y ≤ x

def missing {α : Type} (extended : Bool) (op : String) : Except Chars α :=
  .error (charsOf (op ++ if extended then ": unary operator expected" else ": argument expected"))

mutual

/-- A condition whose first argument has a known sign. The answer comes with the arguments from the
last one on that was used. -/
def primary (w : World) (extended : Bool) : Nat → Sign → List Chars →
    Except Chars (Bool × List Chars)
  | 0, _, ts => .ok (false, ts)
  | _, .ended, ts => .ok (false, ts)
  | n + 1, .open_, ts => do
    let ts := ts.drop 1
    if lex extended ts = .close then return (false, ts)
    let (answer, ts) ← anyOf w extended n (lex extended ts) ts
    let ts := ts.drop 1
    if lex extended ts = .close then return (answer, ts)
    else throw (charsOf "closing paren expected")
  | _, .unary op, ts =>
    match ts.drop 1 with
    | [] => missing extended op
    | s :: rest => .ok (property w op s, s :: rest)
  | _, _, ts => do
    let a := ts.headD []
    match lex extended (ts.drop 1), ts.drop 2 with
    | .binary op, b :: rest => return (← comparison w extended op a b, b :: rest)
    | .binary op, [] => missing extended op
    | _, _ => return (!a.isEmpty, ts)

def negated (w : World) (extended : Bool) : Nat → Sign → List Chars →
    Except Chars (Bool × List Chars)
  | 0, _, ts => .ok (false, ts)
  | n + 1, .negation, ts => do
    let sign := lex extended (ts.drop 1)
    let (answer, ts) ← negated w extended n sign (if sign = .ended then ts else ts.drop 1)
    return (!answer, ts)
  | n + 1, sign, ts => primary w extended n sign ts

def allOf (w : World) (extended : Bool) : Nat → Sign → List Chars →
    Except Chars (Bool × List Chars)
  | 0, _, ts => .ok (false, ts)
  | n + 1, sign, ts => do
    let (answer, ts) ← negated w extended n sign ts
    if lex extended (ts.drop 1) = .both then
      let ts := ts.drop 2
      let (others, ts) ← allOf w extended n (lex extended ts) ts
      return (answer && others, ts)
    else return (answer, ts)

def anyOf (w : World) (extended : Bool) : Nat → Sign → List Chars →
    Except Chars (Bool × List Chars)
  | 0, _, ts => .ok (false, ts)
  | n + 1, sign, ts => do
    let (answer, ts) ← allOf w extended n sign ts
    if lex extended (ts.drop 1) = .either then
      let ts := ts.drop 2
      let (others, ts) ← anyOf w extended n (lex extended ts) ts
      return (answer || others, ts)
    else return (answer, ts)

end

def whole (w : World) (extended : Bool) (sign : Sign) (ts : List Chars) : Except Chars Bool := do
  let (answer, rest) ← anyOf w extended (8 * ts.length + 8) sign ts
  match rest with
  | s :: _ :: _ =>
    if extended then throw (charsOf "too many arguments")
    else throw (s ++ charsOf ": unexpected operator")
  | _ => return answer

def holds (w : World) (extended : Bool) : List Chars → Except Chars Bool
  | [] => .ok false
  | [a, b] =>
    if a = ['!'] then .ok b.isEmpty
    else match extended, signOf extended a with
      | true, .operand => .error (a ++ charsOf ": unary operator expected")
      | _, _ => whole w extended (lex extended [a, b]) [a, b]
  | ['!'] :: rest =>
    match rest with
    | [op, b] =>
      if isBinary (signOf extended op) then whole w extended .operand [['!'], op, b]
      else (holds w extended rest).map not
    | [_, _, _] => (holds w extended rest).map not
    | _ => whole w extended (lex extended (['!'] :: rest)) (['!'] :: rest)
  | [a, op, b] =>
    if isBinary (signOf extended op) then whole w extended .operand [a, op, b]
    else if a = ['('] ∧ b = [')'] then whole w extended (lex extended [op]) [op]
    else if extended ∧ op ≠ ['-', 'a'] ∧ op ≠ ['-', 'o'] then
      .error (op ++ charsOf ": binary operator expected")
    else whole w extended (lex extended [a, op, b]) [a, op, b]
  | [['('], a, b, [')']] => whole w extended (lex extended [a, b]) [a, b]
  | ts => whole w extended (lex extended ts) ts

end Test

end CompileFlags.Shell
