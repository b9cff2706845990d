import CompileFlags.Config.Project

set_option autoImplicit false

/-!
# Resolution

The flags of a file are those of seven sources, one after the other. Two things end a resolution
early, in this order: a relative external directory, and a failure of the system source. A missing
database or build information only leaves its own section empty. Both are read from the world that
the system source leaves behind.
-/

namespace CompileFlags

open Disk

/-- Where flags come from, in order of precedence. -/
inductive Source where
  | language
  | project
  | system
  | locals
  | external
  | database
  | buildInfo
deriving DecidableEq

def Source.name : Source → String
  | .language => "language"
  | .project => "project"
  | .system => "system"
  | .locals => "local"
  | .external => "external"
  | .database => "compdb"
  | .buildInfo => "buildinfo"

abbrev Sections := List (Source × FlagList)

namespace Project

def languageFlags (p : Project) : FlagList :=
  [⟨"-x", p.language.name⟩, ⟨"-std=", p.standard⟩]

def warningFlags (p : Project) : FlagList :=
  p.warnings.map .bare

def localFlags (p : Project) : FlagList :=
  p.localIncludes.map fun dir => .ofInclude (p.root.absolutize ⟨dir⟩)

def externalDirs (p : Project) : List String :=
  p.externalIncludes.map Text.trim

def relativeExternal? (p : Project) : Option String :=
  p.externalDirs.find? fun dir => dir != "" && !(Path.mk dir).isAbsolute

def externalFlags (p : Project) : Logged (Except FlagFault FlagList) :=
  match p.relativeExternal? with
  | some dir => return .error (.configuration (.relativeExternal dir))
  | none => do
    if p.externalDirs.any (· == "") then
      .note .emptyExternal
      return .ok []
    else return .ok (p.externalDirs.map fun dir => .ofInclude (Path.mk dir).normalize)

def databaseFlags (p : Project) (w : World) (file : Path) : Logged FlagList :=
  Database.lookup w p.databaseDir file p.root

def buildInfoFlags (p : Project) (w : World) : Logged FlagList := do
  match ← BuildInfo.load w p.buildInfoPath with
  | .ok flags => return flags
  | .error fault =>
    .note (.buildInfoUnavailable fault)
    return []

def sections (p : Project) (system : SystemSource) (w : World) (file : Path) :
    Logged (Except FlagFault Sections × World) := do
  match ← p.externalFlags with
  | .error fault => return (.error fault, w)
  | .ok external =>
    match ← system.includes w with
    | (.error fault, after) => return (.error fault, after)
    | (.ok systemFlags, after) =>
      let database ← p.databaseFlags after file
      let buildInfo ← p.buildInfoFlags after
      return (.ok [
        (.language, p.languageFlags),
        (.project, p.warningFlags),
        (.system, systemFlags),
        (.locals, p.localFlags),
        (.external, external),
        (.database, database),
        (.buildInfo, buildInfo)], after)

/-- The flags of a file; the empty path stands for the project as a whole. -/
def resolve (p : Project) (system : SystemSource) (w : World) (file : Path) :
    Logged (Except FlagFault FlagList × World) := do
  match ← p.sections system w file with
  | (.error fault, after) => return (.error fault, after)
  | (.ok sections, after) =>
    let flags := sections.flatMap (·.2)
    .note (.resolved flags.length file)
    return (.ok flags, after)

end Project

end CompileFlags
