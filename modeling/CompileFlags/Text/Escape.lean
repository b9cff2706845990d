set_option autoImplicit false

/-!
# Escape sequences of a terminal

A sequence starts with an escape character and tells a terminal something instead of being shown.
It is a choice of a character set, or a command string with a mark at its end, or some opening
characters, numbers between semicolons and one final character. Of two sequences with the same start
the longer one is meant.
-/

namespace CompileFlags.Text

def isEscape (c : Char) : Bool :=
  c == '\x1b' || c.toNat == 0x9b

def isOpening (c : Char) : Bool :=
  "[()#;?".toList.contains c

def isFinal (c : Char) : Bool :=
  "ABCDEFGHIJKLMNOPRZcfghijklmnqry=><".toList.contains c

def andThen : Nat → Nat
  | 0 => 0
  | n + 1 => n + 2

/-- How many characters continue a sequence after `digits` digits of a number, up to the last one
that completes it. A number has four digits; one digit more is a final character. -/
def numbersLength (digits : Nat) : List Char → Nat
  | [] => 0
  | c :: rest =>
    if c.isDigit then 1 + if digits < 4 then numbersLength (digits + 1) rest else 0
    else if c = ';' then andThen (numbersLength 0 rest)
    else if isFinal c then 1
    else 0

def openingLength : List Char → Nat
  | [] => 0
  | c :: rest =>
    if c.isDigit then 1 + numbersLength 1 rest
    else if isOpening c then andThen (openingLength rest)
    else if isFinal c then 1
    else 0

/-- How many characters belong to a command string, up to the mark that ends it, or all of them if
none does. The marks are an escape character with a backslash, the string terminator, and a bell if
`bell` says so. An escape character with anything else behind it is part of the string. -/
def stringLength (bell escaped : Bool) : List Char → Nat
  | [] => 0
  | c :: rest =>
    if escaped then 1 + if c = '\\' then 0 else stringLength bell false rest
    else if c.toNat = 0x9c ∨ bell ∧ c = '\x07' then 1
    else 1 + stringLength bell (c = '\x1b') rest

def escapeLength : List Char → Nat
  | [] => 0
  | c :: rest =>
    if !isEscape c then 0
    else match rest with
      | '(' :: '0' :: _ | '(' :: '1' :: _ | '(' :: '2' :: _
      | ')' :: '0' :: _ | ')' :: '1' :: _ | ')' :: '2' :: _ => 3
      | ']' :: rest => 2 + stringLength true false rest
      | 'P' :: rest => 2 + stringLength false false rest
      | _ => andThen (openingLength rest)

/-- A stretch of text, shown or not. -/
inductive Run where
  | shown (s : List Char)
  | escape (s : List Char)
deriving DecidableEq

def Run.chars : Run → List Char
  | .shown s | .escape s => s

def showFirst (c : Char) : List Run → List Run
  | .shown s :: runs => .shown (c :: s) :: runs
  | runs => .shown [c] :: runs

def escapeFirst (c : Char) : List Run → List Run
  | .escape s :: runs => .escape (c :: s) :: runs
  | runs => .escape [c] :: runs

def runsFrom (hidden : Nat) : List Char → List Run
  | [] => []
  | c :: rest =>
    match if hidden = 0 then escapeLength (c :: rest) else hidden with
    | 0 => showFirst c (runsFrom 0 rest)
    | left + 1 => escapeFirst c (runsFrom left rest)

def runs (s : List Char) : List Run :=
  runsFrom 0 s

theorem chars_showFirst (c : Char) (rs : List Run) :
    (showFirst c rs).flatMap Run.chars = c :: rs.flatMap Run.chars := by
  unfold showFirst
  split <;> simp [Run.chars]

theorem chars_escapeFirst (c : Char) (rs : List Run) :
    (escapeFirst c rs).flatMap Run.chars = c :: rs.flatMap Run.chars := by
  unfold escapeFirst
  split <;> simp [Run.chars]

theorem chars_runsFrom (hidden : Nat) (s : List Char) :
    (runsFrom hidden s).flatMap Run.chars = s := by
  induction s generalizing hidden with
  | nil => simp [runsFrom]
  | cons c rest ih =>
    rw [runsFrom]
    split
    · rw [chars_showFirst, ih]
    · rw [chars_escapeFirst, ih]

end CompileFlags.Text
