import CompileFlags.Disk.Resolve
import CompileFlags.Path.Normal
import CompileFlags.Text.Utf8

set_option autoImplicit false

/-!
# The world of a process

A tree of files, the folder that the process works in, and where programs are looked for. The
working folder can be gone: relative paths then lead nowhere, and the root stands in for it where a
path only has to be spelled.
-/

namespace CompileFlags.Disk

def pathOf (place : Place) : Path :=
  ⟨"/" ++ "/".intercalate place⟩

structure World where
  tree : Node
  cwd : Option Place
  programDirs : List Path

namespace World

def currentDir (w : World) : Except IoFault Path :=
  match w.cwd with
  | some place => .ok (pathOf place)
  | none => .error .notFound

def base (w : World) : Path :=
  match w.cwd with
  | some place => pathOf place
  | none => ⟨"/"⟩

def absolute (w : World) (p : Path) : Path :=
  w.base.absolutize p

def place (w : World) (ending : Ending) (p : Path) : Except IoFault Place :=
  if p.text.contains '\x00' then .error .nulInName
  else if pathLimit < p.text.utf8ByteSize then .error .nameTooLong
  else if p.isEmpty then .error .notFound
  else if p.isAbsolute then placeFrom w.tree ending linkLimit [] (hops p)
  else match w.cwd with
    | some start => placeFrom w.tree ending linkLimit start (hops p)
    | none => .error .notFound

def node (w : World) (ending : Ending) (p : Path) : Except IoFault Node := do
  let place ← w.place ending p
  match w.tree.at? place with
  | some n => return n
  | none => throw .notFound

def isFile (w : World) (p : Path) : Bool :=
  match w.node .follow p with
  | .ok n => n.isFile
  | .error _ => false

def isFolder (w : World) (p : Path) : Bool :=
  match w.node .follow p with
  | .ok n => n.isFolder
  | .error _ => false

def hasPath (w : World) (p : Path) : Bool :=
  match w.node .follow p with
  | .ok _ => true
  | .error _ => false

def readBytes (w : World) (p : Path) : Except IoFault (List UInt8) := do
  match ← w.node .follow p with
  | .file content rights => if rights.read then return content else throw .denied
  | .folder .. => throw .isDirectory
  | .link _ => throw .tooManyLinks

def readText (w : World) (p : Path) : Except IoFault String := do
  match Text.Utf8.decode? (← w.readBytes p) with
  | some s => return s
  | none => throw .notText

/-- Whether the entries of a folder can be read. -/
def lists (w : World) (p : Path) : Bool :=
  match w.node .follow p with
  | .ok n => n.isFolder && n.rights.read
  | .error _ => false

def setNode (w : World) (place : Place) (n : Node) : World :=
  { w with tree := n.put place w.tree }

def changeEntry (w : World) (place : Place) (change : World → World) : Except IoFault World :=
  match w.tree.at? place.dropLast with
  | some n => if n.rights.write then return change w else throw .denied
  | none => throw .notFound

def writeFile (w : World) (p : Path) (content : List UInt8) : Except IoFault World := do
  let place ← w.place .create p
  match w.tree.at? place with
  | some (.file _ rights) =>
    if rights.write then return w.setNode place (.file content rights) else throw .denied
  | some _ => throw .isDirectory
  | none => w.changeEntry place (·.setNode place (.file content .data))

def makeFolders (w : World) (p : Path) : Except IoFault World :=
  p.ancestors.reverse.foldlM (fun w q =>
    if q.isEmpty || w.isFolder q then return w
    else do
      let place ← w.place .create q
      match w.tree.at? place with
      | some _ => throw .exists_
      | none => w.changeEntry place (·.setNode place (.folder [] .all))) w

def makeLink (w : World) (p target : Path) : Except IoFault World :=
  match w.place .keep p with
  | .ok _ => throw .exists_
  | .error _ => do
    let place ← w.place .create p
    w.changeEntry place (·.setNode place (.link target))

/-- The world without a file, a link or a whole folder. A process that worked below it has no
working folder any more. -/
def remove (w : World) (p : Path) : Except IoFault World := do
  let place ← w.place .keep p
  w.changeEntry place fun w => { w with
    tree := w.tree.remove place
    cwd := w.cwd.filter fun at_ => !place.isPrefixOf at_ }

def changeDir (w : World) (p : Path) : Except IoFault World := do
  let place ← w.place .follow p
  match w.tree.at? place with
  | some (.folder _ rights) =>
    if rights.execute then return { w with cwd := some place } else throw .denied
  | some _ => throw .notDirectory
  | none => throw .notFound

theorem absolute_of_isAbsolute {w : World} {p : Path} (h : p.isAbsolute = true) :
    w.absolute p = p.normalize :=
  Path.absolutize_of_isAbsolute h

end World

end CompileFlags.Disk
