import CompileFlags.Path.Basic

set_option autoImplicit false

namespace CompileFlags.Disk

abbrev Place := List String

/-- What a process may do with a file or a folder. To execute a folder is to look up names in it. -/
structure Rights where
  read : Bool
  write : Bool
  execute : Bool
deriving DecidableEq

namespace Rights

def all : Rights := ⟨true, true, true⟩

def data : Rights := ⟨true, true, false⟩

end Rights

inductive Node where
  | file (content : List UInt8) (rights : Rights)
  | link (target : Path)
  | folder (entries : List (String × Node)) (rights : Rights)

instance : Inhabited Node := ⟨.folder [] .all⟩

def setEntry (name : String) (n : Node) : List (String × Node) → List (String × Node)
  | [] => [(name, n)]
  | (other, m) :: rest =>
    if other = name then (name, n) :: rest else (other, m) :: setEntry name n rest

namespace Node

def isFile : Node → Bool
  | .file .. => true
  | _ => false

def isFolder : Node → Bool
  | .folder .. => true
  | _ => false

def entries : Node → List (String × Node)
  | .folder es _ => es
  | _ => []

def rights : Node → Rights
  | .file _ rights | .folder _ rights => rights
  | .link _ => .all

def child? (n : Node) (name : String) : Option Node :=
  n.entries.lookup name

def at? (n : Node) : Place → Option Node
  | [] => some n
  | name :: rest => (n.child? name).bind (·.at? rest)

/-- The tree with `m` at a place. Folders that are missing on the way come into being; nothing
happens below a file or a link. -/
def put (m : Node) : Place → Node → Node
  | [], _ => m
  | name :: rest, .folder es rights =>
    .folder (setEntry name (put m rest ((es.lookup name).getD (.folder [] .all))) es) rights
  | _ :: _, n => n

def remove : Place → Node → Node
  | [name], .folder es rights => .folder (es.filter fun e => e.1 != name) rights
  | name :: rest, .folder es rights =>
    match es.lookup name with
    | some n => .folder (setEntry name (remove rest n) es) rights
    | none => .folder es rights
  | _, n => n

@[simp] theorem at?_nil (n : Node) : n.at? [] = some n := rfl

@[simp] theorem child?_file (content : List UInt8) (rights : Rights) (name : String) :
    (Node.file content rights).child? name = none := rfl

theorem at?_append (n : Node) (p q : Place) : n.at? (p ++ q) = (n.at? p).bind (·.at? q) := by
  induction p generalizing n with
  | nil => rfl
  | cons name p ih =>
    simp only [List.cons_append, at?]
    cases n.child? name with
    | none => rfl
    | some m => simpa using ih m

end Node

end CompileFlags.Disk
