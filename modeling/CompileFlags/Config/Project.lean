import CompileFlags.BuildInfo.Load
import CompileFlags.Config.Settings
import CompileFlags.Database.Lookup
import CompileFlags.Probe

set_option autoImplicit false

namespace CompileFlags

open Disk

structure Project where
  root : Path
  language : Language
  dialect : Dialect
  version : String
  frontend : String
  warnings : List String
  localIncludes : List String
  externalIncludes : List String
  buildInfoDir : Path
  databaseDir : Path
deriving DecidableEq

namespace Project

def standard (p : Project) : String :=
  standardName p.language p.dialect p.version

def buildInfoPath (p : Project) : Path :=
  p.buildInfoDir.child BuildInfo.fileName

def databasePath (p : Project) : Path :=
  p.databaseDir.child Database.fileName

def probe (p : Project) : Probe where
  frontend := p.frontend
  language := p.language
  standard := p.standard

def isVersion (s : String) : Bool :=
  s != "" && !s.toList.any Text.isBlank

/-- The project of some settings; `base` is where a relative root is read from. -/
def ofSettings (base : Path) (s : Settings) (root : Path) : Except ConfigFault Project :=
  let version := Text.trim s.language.std
  if !isVersion version then .error (.badVersion s.language.lang s.language.std)
  else if Text.trim s.compiler.frontend = "" then .error .blankFrontend
  else
    let root := base.absolutize root
    let buildInfoDir := root.absolutize ⟨s.paths.buildInfoDir⟩
    .ok {
      root := root
      language := s.language.lang
      dialect := s.language.dialect
      version := version
      frontend := s.compiler.frontend
      warnings := s.flags.warnings
      localIncludes := s.includes.locals
      externalIncludes := s.includes.external
      buildInfoDir := buildInfoDir
      databaseDir := match s.paths.databaseDir with
        | some dir => root.absolutize ⟨dir⟩
        | none => buildInfoDir }

end Project

end CompileFlags
