import CompileFlags.Shell.Bytes

set_option autoImplicit false

namespace CompileFlags.Shell

/-- What a parameter with a fallback does about a missing value. -/
inductive Fallback where
  | default
  | assign
  | demand
  | alternative
deriving DecidableEq

inductive Access where
  | read
  | write
  | append
  | both
deriving DecidableEq

inductive Matches where
  | first
  | all
  | atStart
  | atEnd
deriving DecidableEq

/-- What follows the commands of a case: nothing, those of the next case, or the test of the next. -/
inductive CaseEnd where
  | stop
  | fallThrough
  | testNext
deriving DecidableEq

mutual

inductive WordPart where
  | text (s : Chars) (quoted : Bool)
  | parameter (name : String) (item : Option (List WordPart)) (use : ParameterUse) (quoted : Bool)
  | output (script : Command) (quoted : Bool)
  | sum (expression : List WordPart) (quoted : Bool)
  | file (script : Command)

inductive ParameterUse where
  | value
  | length
  | fallback (kind : Fallback) (emptyToo : Bool) (word : List WordPart)
  | cutStart (longest : Bool) (pattern : List WordPart)
  | cutEnd (longest : Bool) (pattern : List WordPart)
  | slice (start : List WordPart) (length : Option (List WordPart))
  | replace (which : Matches) (pattern replacement : List WordPart)
  | recase (upper all : Bool)
  | indirect
  | keys
  | names
  | operator (letter : Char)
  | invalid

inductive Redirect where
  | file (fd : Nat) (access : Access) (force : Bool) (target : List WordPart)
  | copy (fd : Nat) (source : List WordPart)
  | hereText (fd : Nat) (position : Nat)
  | hereWord (fd : Nat) (word : List WordPart)
  | bothOutputs (access : Access) (target : List WordPart)

inductive Assignment where
  | text (name : String) (item : Option (List WordPart)) (more : Bool) (value : List WordPart)
  | list (name : String) (more : Bool) (values : List (List WordPart))

inductive Condition where
  | word (w : List WordPart)
  | unary (op : String) (w : List WordPart)
  | binary (op : String) (left right : List WordPart)
  | negation (c : Condition)
  | both (first second : Condition)
  | either (first second : Condition)

inductive Command where
  | nothing
  | simple (line : Nat) (assignments : List Assignment) (words : List (List WordPart))
    (redirects : List Redirect)
  | redirected (line : Nat) (body : Command) (redirects : List Redirect)
  | subshell (line : Nat) (body : Command)
  | pipe (stages : List Command)
  | both (first second : Command)
  | either (first second : Command)
  | inOrder (first second : Command)
  | background (body : Command)
  | negation (body : Command)
  | choice (test yes no : Command)
  | loop (until_ : Bool) (test body : Command)
  | each (line : Nat) (name : String) (items : List (List WordPart)) (body : Command)
  | counted (line : Nat) (start test step : List WordPart) (body : Command)
  | choose (line : Nat) (name : String) (items : List (List WordPart)) (body : Command)
  | select (line : Nat) (subject : List WordPart)
    (cases : List (List (List WordPart) × Command × CaseEnd))
  | define (name : String) (body : Command)
  | condition (line : Nat) (c : Condition)
  | sum (line : Nat) (expression : List WordPart)

end

abbrev Word := List WordPart

instance : Inhabited Command := ⟨.nothing⟩

namespace Word

def joined : Word → Word
  | .text a p :: rest =>
    match joined rest with
    | .text b q :: rest => if p = q then .text (a ++ b) p :: rest else .text a p :: .text b q :: rest
    | rest => .text a p :: rest
  | part :: rest => part :: joined rest
  | [] => []

def bare? : Word → Option Chars
  | [.text s false] => some s
  | _ => none

end Word

end CompileFlags.Shell
