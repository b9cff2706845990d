import CompileFlags.Text.Escape
import CompileFlags.Text.Width

set_option autoImplicit false

/-!
# Fitting text into columns

The columns that a text takes on a terminal, where escape sequences take none, and clipping. A
clipped text shows what it has room for and three dots; the escape sequences behind the cut stay,
so that a colour that was switched on is switched off again.
-/

namespace CompileFlags.Text

def Run.width : Run → Nat
  | .shown s => Text.width s
  | .escape _ => 0

def Run.escapes : Run → List Char
  | .shown _ => []
  | .escape s => s

def columns (s : List Char) : Nat :=
  (runs s).foldr (fun run n => run.width + n) 0

/-- The longest start of a text whose characters, each one alone, have room in `limit` columns; it
ends with the first character that fills them. -/
def takeColumns (limit : Nat) : List Char → List Char
  | [] => []
  | c :: rest =>
    if limit < charWidth c then []
    else if charWidth c = limit then [c]
    else c :: takeColumns (limit - charWidth c) rest

def dots : List Char :=
  ['.', '.', '.']

def clipRuns (limit : Nat) : List Run → List Char
  | [] => []
  | .escape s :: rest => s ++ clipRuns limit rest
  | .shown s :: rest =>
    if width s ≤ limit then s ++ clipRuns (limit - width s) rest
    else takeColumns limit s ++ dots ++ rest.flatMap Run.escapes

def clip (limit : Nat) (s : List Char) : List Char :=
  if columns s ≤ limit then s else clipRuns (limit - width dots) (runs s)

theorem looseWidth_takeColumns_le (limit : Nat) (s : List Char) :
    looseWidth (takeColumns limit s) ≤ limit := by
  induction s generalizing limit with
  | nil => simp [takeColumns]
  | cons c rest ih =>
    rw [takeColumns]
    split
    · simp
    · split
      · next h => simp [h]
      · next h _ =>
        have := ih (limit - charWidth c)
        simp only [looseWidth_cons]
        omega

theorem takeColumns_prefix (limit : Nat) (s : List Char) : takeColumns limit s <+: s := by
  induction s generalizing limit with
  | nil => simp [takeColumns]
  | cons c rest ih =>
    rw [takeColumns]
    split
    · simp
    · split
      · simp
      · simpa using ih (limit - charWidth c)

theorem clip_of_columns_le {limit : Nat} {s : List Char} (h : columns s ≤ limit) :
    clip limit s = s := by
  simp [clip, h]

end CompileFlags.Text
