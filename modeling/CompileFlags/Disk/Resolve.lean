import CompileFlags.Disk.Tree
import CompileFlags.Fault

set_option autoImplicit false

namespace CompileFlags.Disk

inductive Hop where
  | slash
  | here
  | up
  | name (s : String)
deriving DecidableEq

inductive Ending where
  | follow
  | keep
  | create
deriving DecidableEq

def Hop.ofPiece? (piece : String) : Option Hop :=
  if piece = "" then none
  else if piece = "." then some .here
  else if piece = ".." then some .up
  else some (.name piece)

def hops (p : Path) : List Hop :=
  p.pieces.filterMap Hop.ofPiece? ++ if p.pieces.getLast? = some "" then [.slash] else []

def linkLimit : Nat := 40

def nameLimit : Nat := 255

def pathLimit : Nat := 4095

/-- The place reached from a place by hops, with as many links as are left to follow. -/
def placeFrom (tree : Node) (ending : Ending) (links : Nat) (place : Place) :
    List Hop → Except IoFault Place
  | [] => .ok place
  | hop :: rest =>
    match tree.at? place with
    | none => .error .notFound
    | some n =>
      if !n.isFolder then .error .notDirectory
      else if !n.rights.execute ∧ hop ≠ .slash then .error .denied
      else match hop with
        | .slash | .here => placeFrom tree ending links place rest
        | .up => placeFrom tree ending links place.dropLast rest
        | .name s =>
          if nameLimit < s.utf8ByteSize then .error .nameTooLong
          else match n.child? s with
            | none =>
              if rest = [] ∧ ending = .create then .ok (place ++ [s]) else .error .notFound
            | some (.link target) =>
              if rest = [] ∧ ending = .keep then .ok (place ++ [s])
              else match links with
                | 0 => .error .tooManyLinks
                | links + 1 =>
                  if target.isEmpty then .error .notFound
                  else placeFrom tree ending links (if target.isAbsolute then [] else place)
                    (hops target ++ rest)
            | some _ => placeFrom tree ending links (place ++ [s]) rest
termination_by hopsLeft => (links, hopsLeft.length)

end CompileFlags.Disk
