import CompileFlags.Shell.Pattern

set_option autoImplicit false

namespace CompileFlags.Shell

inductive Glyph where
  | char (c : Char) (quoted splits : Bool)
  | empty
  | gap
deriving DecidableEq

namespace Glyph

def ofText (quoted splits : Bool) (s : Chars) : List Glyph :=
  s.map fun c => .char c quoted splits

/-- The glyphs of a value: one field when quoted, open to splitting otherwise. -/
def ofValue (quoted : Bool) (s : Chars) : List Glyph :=
  if quoted then .empty :: ofText true false s else ofText false true s

def ofValues (quoted : Bool) (values : List Chars) : List Glyph :=
  [Glyph.gap].intercalate (values.map (ofValue quoted))

def text (gs : List Glyph) : Chars :=
  gs.filterMap fun
    | .char c _ _ => some c
    | .gap => some ' '
    | .empty => none

def marked (gs : List Glyph) : List Pattern.Marked :=
  gs.filterMap fun
    | .char c quoted _ => some (c, quoted)
    | .gap => some (' ', true)
    | .empty => none

/-- The fields found so far, the last first; the open field; and whether blanks alone have just
ended one. -/
structure Splitting where
  fields : List (List Pattern.Marked) := []
  current : Option (List Pattern.Marked) := none
  afterBlank : Bool := false

namespace Splitting

def close (s : Splitting) : Splitting :=
  match s.current with
  | some field => { s with fields := field.reverse :: s.fields, current := none }
  | none => s

def extend (s : Splitting) (item : Pattern.Marked) : Splitting :=
  { s with current := some (item :: s.current.getD []), afterBlank := false }

def step (separators : Chars) (s : Splitting) : Glyph → Splitting
  | .empty => { s with current := some (s.current.getD []), afterBlank := false }
  | .gap => { s.close with afterBlank := false }
  | .char c quoted splits =>
    if !splits || !separators.contains c then s.extend (c, quoted)
    else if c = ' ' ∨ c = '\t' ∨ c = '\n' then
      { s.close with afterBlank := s.afterBlank || s.current.isSome }
    else if s.current.isSome then { s.close with afterBlank := false }
    else if s.afterBlank then { s with afterBlank := false }
    else { s with fields := [] :: s.fields }

end Splitting

def fields (separators : Chars) (gs : List Glyph) : List (List Pattern.Marked) :=
  (gs.foldl (Splitting.step separators) {}).close.fields.reverse

@[simp] theorem fields_nil (separators : Chars) : fields separators [] = [] := rfl

end Glyph

end CompileFlags.Shell
