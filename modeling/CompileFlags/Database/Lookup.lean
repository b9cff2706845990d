import CompileFlags.Database.Basic
import CompileFlags.Database.Header
import CompileFlags.Disk.Walk
import CompileFlags.Disk.World

set_option autoImplicit false

/-!
# Looking files up

A database records sources only, so a header is looked up as the source of the same stem that a
walk of the project finds first. A database that cannot be loaded contributes nothing.
-/

namespace CompileFlags.Database

open Disk

def fileName : String := "compile_commands.json"

/-- The folders below a root that are searched. A root that is a link is walked but not searched
itself. -/
def searched (w : World) (root : Path) : List Path :=
  match w.node .keep root, w.node .follow root with
  | .ok own, .ok n =>
    let all := n.folders fun names => w.lists (names.foldl Path.child root)
    let below := match own with
      | .link _ => all.drop 1
      | _ => all
    below.map fun names => names.foldl Path.child root
  | _, _ => []

/-- The first source with the stem of a header, folder by folder. -/
def findSource? (w : World) (header root : Path) : Option Path := do
  let stem ← header.stem?
  (searched w root).findSome? fun folder =>
    (sourceExtensions.map fun ext => folder.child (stem ++ "." ++ ext)).find? w.isFile

def lookupKey (w : World) (file root : Path) : Logged Path := do
  let file := w.absolute file
  if isHeader file then
    match findSource? w file root with
    | some source =>
      .note (.sourceFound source file)
      return source.normalize
    | none =>
      .note (.sourceMissing file)
      return file
  else return file

theorem value_lookupKey (w : World) (file root : Path) :
    (lookupKey w file root).value =
      if isHeader (w.absolute file) then
        match findSource? w (w.absolute file) root with
        | some source => source.normalize
        | none => w.absolute file
      else w.absolute file := by
  unfold lookupKey
  dsimp only
  split
  · split <;> rfl
  · rfl

def flagsFor (db : Database) (w : World) (file root : Path) : Logged FlagList := do
  if file.isEmpty then return []
  let key ← lookupKey w file root
  return (db.find? key).getD []

theorem value_flagsFor (db : Database) (w : World) (file root : Path) :
    (flagsFor db w file root).value =
      if file.isEmpty then [] else (db.find? (lookupKey w file root).value).getD [] := by
  unfold flagsFor
  split <;> rfl

def load (w : World) (dir : Path) : Logged (Except FlagFault Database) :=
  let path := dir.child fileName
  match w.readText path with
  | .error cause => return .error (.database (.unreadable path cause))
  | .ok content => parse w.base content

theorem value_load (w : World) (dir : Path) :
    (load w dir).value =
      match w.readText (dir.child fileName) with
      | .error cause => .error (.database (.unreadable (dir.child fileName) cause))
      | .ok content => (parse w.base content).value := by
  unfold load
  dsimp only
  split <;> rfl

def lookup (w : World) (dir file root : Path) : Logged FlagList := do
  match ← load w dir with
  | .ok db => flagsFor db w file root
  | .error fault =>
    .note (.databaseUnavailable fault)
    return []

theorem value_lookup (w : World) (dir file root : Path) :
    (lookup w dir file root).value =
      match (load w dir).value with
      | .ok db => (flagsFor db w file root).value
      | .error _ => [] := by
  unfold lookup
  rw [Logged.value_bind]
  split <;> rfl

end CompileFlags.Database
