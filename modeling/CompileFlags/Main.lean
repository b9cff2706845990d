import CompileFlags.CommandLine.Run
import CompileFlags.Shell.Host
import CompileFlags.Shell.Program

set_option autoImplicit false

/-!
# The program

Reads what a run can ask for from the disk into a world, runs the command line there, prints the
outcome, and writes the configuration file that a run may have created. Below the root of the
project only names are read, since a search for sources looks at nothing else. A compiler can be a
script only, and the tools that it calls are those of the world.
-/

namespace CompileFlags.CommandLine

open Disk

/-- The names below a folder. A link is kept with the place that it leads to; what cannot be looked
at becomes a link to itself, which leads nowhere. A folder that does not open is empty. -/
partial def readNames (dir : String) : IO Node := do
  let found ← try some <$> (← IO.FS.realPath dir).readDir catch _ => pure none
  let some found := found | return .folder [] { Rights.all with read := false }
  let mut entries := []
  for entry in found do
    let path := entry.path.toString
    let node ← try
        match (← entry.path.symlinkMetadata).type with
        | .dir => readNames path
        | .symlink => pure (Node.link ⟨(← IO.FS.realPath path).toString⟩)
        | _ => pure (Node.file [] .data)
      catch _ => pure (Node.link ⟨path⟩)
    entries := (entry.fileName, node) :: entries
  return .folder entries .all

def keep (w : World) : Except IoFault World → World
  | .ok changed => changed
  | .error _ => w

def withParent (w : World) (p : Path) : World :=
  match p.parent? with
  | some parent => keep w (w.makeFolders parent)
  | none => w

def addNames (w : World) (dir : Path) : IO World := do
  try
    let n ← readNames dir.text
    let w := keep w (w.makeFolders dir)
    match w.place .follow dir with
    | .ok place => return w.setNode place n
    | .error _ => return w
  catch _ => return w

def readFile (path : String) : IO Node := do
  let content ← try some <$> IO.FS.readBinFile path catch _ => pure none
  match content with
  | none => return .file [] ⟨false, false, false⟩
  | some content =>
    let content := content.toList
    return .file content { Rights.data with execute := content.take 2 == Text.Utf8.encode "#!" }

/-- The world with a file or a folder that the disk has, under its own path and the one asked for.
What the world has already stays. -/
def addFile (w : World) (p : Path) : IO World := do
  if w.hasPath p then return w
  try
    let real : Path := ⟨(← IO.FS.realPath p.text).toString⟩
    if (← (← IO.FS.realPath p.text).metadata).type == .dir then
      return keep w (w.makeFolders real)
    let n ← readFile p.text
    let w := withParent w real
    let w := match w.place .create real with
      | .ok place => w.setNode place n
      | .error _ => w
    if w.hasPath p then return w
    let w := withParent w p
    return keep w (w.makeLink p real)
  catch _ => return w

def programPaths (w : World) (name : String) : List Path :=
  if '/' ∈ name.toList then [⟨name⟩] else w.programDirs.map (·.child name)

def worldFor (i : Invocation) (w : World) : IO World := do
  let configs := w.base.ancestors.map (·.child Config.fileName)
  let w ← (configs ++ i.config.toList).foldlM addFile w
  match Config.locate w i.config with
  | .error _ => return w
  | .ok p =>
    let w ← addNames w p.root
    (configs ++ [p.databasePath, p.buildInfoPath] ++ programPaths w p.frontend).foldlM addFile w

def startWorld : IO World := do
  let programDirs := match ← IO.getEnv "PATH" with
    | some dirs => (Text.splitOn ':' dirs.toList).map fun dir => ⟨String.ofList dir⟩
    | none => Shell.Host.programDirs
  let w : World := { tree := Shell.Host.tree, cwd := none, programDirs }
  try
    let cwd : Path := ⟨(← IO.currentDir).toString⟩
    return keep w (keep w (w.makeFolders cwd) |>.changeDir cwd)
  catch _ => return w

def execute (args : List String) : IO UInt32 := do
  let w ← startWorld
  let w ← match parse args with
    | .run i => worldFor i w
    | _ => pure w
  let outcome := run Shell.startProgram w args
  for line in outcome.output do IO.println line
  for line in outcome.errors do IO.eprintln line
  let config : Path := ⟨Config.fileName⟩
  if !w.hasPath config then
    match outcome.world.readText config with
    | .ok content => IO.FS.writeFile config.text content
    | .error _ => pure ()
  return UInt32.ofNat outcome.code

end CompileFlags.CommandLine

def main (args : List String) : IO UInt32 :=
  CompileFlags.CommandLine.execute args
