import CompileFlags.Disk.Tree

set_option autoImplicit false

/-!
# The folders of a tree

All folders at or below a node, each before those below it, and the folders beside each other in
the order of their names. Links are not entered.
-/

namespace CompileFlags.Disk

def byName {α : Type} (a b : String × α) : Bool :=
  decide (a.1 ≤ b.1)

mutual

/-- The places of the folders of a node, seen from it. What is in a folder is found only if the
folder opens, and of two entries of one name only the first is there. -/
def Node.folders (opens : Place → Bool) : Node → List Place
  | .folder es _ =>
    [] :: if opens [] then
      ((foldersBelow opens es).mergeSort byName).flatMap fun found => found.2.map (found.1 :: ·)
    else []
  | _ => []

def foldersBelow (opens : Place → Bool) : List (String × Node) → List (String × List Place)
  | [] => []
  | (name, n) :: rest =>
    (name, n.folders fun place => opens (name :: place)) ::
      (foldersBelow opens rest).filter (·.1 ≠ name)

end

end CompileFlags.Disk
