set_option autoImplicit false

namespace CompileFlags.Text

abbrev Reader := StateT (List Char) Option

namespace Reader

def peek : Reader (Option Char) := do
  return (← get).head?

def next : Reader Char := do
  match ← get with
  | [] => failure
  | c :: r => set r; return c

def satisfy (p : Char → Bool) : Reader Char := do
  let c ← next
  if p c then return c else failure

def char (c : Char) : Reader Unit := do
  let _ ← satisfy (· == c)

def literal : List Char → Reader Unit
  | [] => pure ()
  | c :: r => do char c; literal r

def whileChars (p : Char → Bool) : Reader (List Char) := do
  let s ← get
  set (s.dropWhile p)
  return s.takeWhile p

def someChars (p : Char → Bool) : Reader (List Char) := do
  let cs ← whileChars p
  if cs.isEmpty then failure else return cs

def atEnd : Reader Bool := do
  return (← get).isEmpty

def tryRead {α : Type} (p : Reader α) : Reader (Option α) := fun s =>
  match p s with
  | some (a, r) => some (some a, r)
  | none => some (none, s)

/-- The answers of a reader applied again and again, and the text that is left. -/
def rounds {α : Type} (p : Reader α) (s : List Char) : List α × List Char :=
  match p s with
  | none => ([], s)
  | some (a, r) =>
    if r.length < s.length then
      let more := rounds p r
      (a :: more.1, more.2)
    else ([], s)
termination_by s.length

def many {α : Type} (p : Reader α) : Reader (List α) := fun s =>
  some (rounds p s)

def whole? {α : Type} (p : Reader α) (s : List Char) : Option α :=
  match p s with
  | some (a, []) => some a
  | _ => none

end Reader

end CompileFlags.Text
