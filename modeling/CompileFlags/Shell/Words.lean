import CompileFlags.Text.Blank

set_option autoImplicit false

/-!
# Words of a command line

A command line is split at blanks that no quote protects. Single quotes keep everything up to the
next one. In double quotes a backslash protects a double quote, a backslash, a dollar sign and a
backquote, and stands for itself before anything else. Outside quotes a backslash keeps the next
character. Adjacent parts glue into one word, quotes alone make an empty word, and a quote that is
still open at the end is closed there. Nothing is expanded.
-/

namespace CompileFlags.Shell

/-- Where the reader stands: outside quotes or inside one kind of them. -/
inductive Quoting where
  | none
  | single
  | double
deriving DecidableEq

def isProtected (c : Char) : Bool :=
  c == '"' || c == '\\' || c == '$' || c == '\x60'

def glue (word : Option (List Char)) (more : List Char) : Option (List Char) :=
  some (word.getD [] ++ more)

def wordsFrom : Quoting → Option (List Char) → List Char → List (List Char)
  | _, word, [] => word.toList
  | .none, word, '\\' :: c :: r => wordsFrom .none (glue word [c]) r
  | .none, word, ['\\'] => [word.getD []]
  | .none, word, c :: r =>
    if c = '\x27' then wordsFrom .single (glue word []) r
    else if c = '"' then wordsFrom .double (glue word []) r
    else if Text.isBlank c then word.toList ++ wordsFrom .none none r
    else wordsFrom .none (glue word [c]) r
  | .single, word, c :: r =>
    if c = '\x27' then wordsFrom .none word r
    else wordsFrom .single (glue word [c]) r
  | .double, word, '\\' :: c :: r =>
    if isProtected c then wordsFrom .double (glue word [c]) r
    else wordsFrom .double (glue word ['\\', c]) r
  | .double, word, c :: r =>
    if c = '"' then wordsFrom .none word r
    else wordsFrom .double (glue word [c]) r

def words (command : List Char) : List (List Char) :=
  wordsFrom .none none command

def splitCommand (command : String) : List String :=
  (words command.toList).map String.ofList

@[simp] theorem glue_glue (word : Option (List Char)) (a b : List Char) :
    glue (glue word a) b = glue word (a ++ b) := by
  simp [glue]

@[simp] theorem words_nil : words [] = [] := rfl

theorem wordsFrom_blank {c : Char} (h : Text.isBlank c = true) (word : Option (List Char))
    (r : List Char) :
    wordsFrom .none word (c :: r) = word.toList ++ wordsFrom .none none r := by
  have h1 : c ≠ '\x27' := by rintro rfl; revert h; decide
  have h2 : c ≠ '"' := by rintro rfl; revert h; decide
  have h3 : c ≠ '\\' := by rintro rfl; revert h; decide
  rw [wordsFrom] <;> simp_all

end CompileFlags.Shell
