import CompileFlags.Text.Lines

set_option autoImplicit false

/-!
# Paths as written

A path is text; what it says is its shape: whether it starts at the root, whether it starts with a
`.`, and the steps it takes. Repeated slashes, inner `.` pieces and a trailing slash are spelling
and leave no trace in the shape.
-/

namespace CompileFlags

structure Path where
  text : String
deriving DecidableEq, Inhabited

/-- One step of a path: to the parent, or to an entry of the directory reached so far. -/
inductive Path.Step where
  | up
  | name (s : String)
deriving DecidableEq

/-- What a path says, its spelling apart. -/
structure Path.Shape where
  absolute : Bool
  dotted : Bool
  steps : List Path.Step
deriving DecidableEq

namespace Path

def empty : Path := ⟨""⟩

def isEmpty (p : Path) : Bool := p.text.isEmpty

def pieces (p : Path) : List String :=
  (Text.splitOn '/' p.text.toList).map String.ofList

def Step.ofPiece? (piece : String) : Option Step :=
  if piece = "" ∨ piece = "." then none
  else if piece = ".." then some .up
  else some (.name piece)

def Step.text : Step → String
  | .up => ".."
  | .name s => s

def isAbsolute (p : Path) : Bool :=
  p.text.toList.head? == some '/'

def steps (p : Path) : List Step :=
  p.pieces.filterMap Step.ofPiece?

def shape (p : Path) : Shape where
  absolute := p.isAbsolute
  dotted := p.pieces.head? == some "."
  steps := p.steps

def same (p q : Path) : Bool :=
  p.shape = q.shape

def child (p : Path) (name : String) : Path :=
  if p.isEmpty ∨ p.text.toList.getLast? = some '/' then ⟨p.text ++ name⟩
  else ⟨p.text ++ "/" ++ name⟩

def join (base p : Path) : Path :=
  if p.isAbsolute then p else base.child p.text

def fileName? (p : Path) : Option String :=
  match p.steps.getLast? with
  | some (.name s) => some s
  | _ => none

/-- A file name in two at its last dot. A dot in front of everything else parts nothing. -/
def splitName (name : String) : String × Option String :=
  let back := name.toList.reverse
  let ext := back.takeWhile (· != '.')
  match back.drop ext.length with
  | _ :: before =>
    if before.isEmpty then (name, none)
    else (String.ofList before.reverse, some (String.ofList ext.reverse))
  | [] => (name, none)

def stem? (p : Path) : Option String :=
  p.fileName?.map fun name => (splitName name).1

def extension? (p : Path) : Option String :=
  p.fileName?.bind fun name => (splitName name).2

/-- Pieces without those at the end that stand for no step. The first piece is kept when it stands
for the root or for a leading `.`. -/
def trimPieces (pieces : List String) : List String :=
  let idle := fun piece : String => piece == "" || piece == "."
  match pieces with
  | [] => []
  | first :: rest =>
    let rest := (rest.reverse.dropWhile idle).reverse
    first :: rest

def parent? (p : Path) : Option Path :=
  match trimPieces p.pieces with
  | [] => none
  | [first] =>
    if p.isAbsolute ∨ first = "" then none else some empty
  | first :: second :: rest =>
    let kept := trimPieces (first :: (second :: rest).dropLast)
    if kept = [""] then some ⟨"/"⟩ else some ⟨"/".intercalate kept⟩

def ancestors (p : Path) : List Path :=
  go p p.text.length
where
  go (p : Path) : Nat → List Path
    | 0 => [p]
    | n + 1 => match p.parent? with
      | some q => p :: go q n
      | none => [p]

@[simp] theorem join_of_isAbsolute {base p : Path} (h : p.isAbsolute = true) :
    base.join p = p := by
  simp [join, h]

theorem pieces_ne_nil (p : Path) : p.pieces ≠ [] := by
  simp [pieces, Text.splitOn_ne_nil]

end Path

end CompileFlags
