import CompileFlags.Config.Project
import CompileFlags.Toml.Document

set_option autoImplicit false

namespace CompileFlags

open Disk

/-- Why no project could be loaded. -/
inductive LoadFault where
  | noCurrentDir (cause : IoFault)
  | noConfig
  | unreadable (path : Path) (cause : IoFault)
  | malformed (path : Path)
  | invalid (fault : ConfigFault)
deriving DecidableEq

namespace Config

def fileName : String := "cxflags.toml"

def find? (w : World) (start : Path) : Option Path :=
  (start.ancestors.map (·.child fileName)).find? w.isFile

def load (w : World) (path : Path) : Except LoadFault Project :=
  match w.readText path with
  | .error cause => .error (.unreadable path cause)
  | .ok content =>
    match (Toml.parse? content).bind Settings.ofToml? with
    | none => .error (.malformed path)
    | some settings =>
      let root := (w.absolute path).parent?.getD ⟨"/"⟩
      match Project.ofSettings w.base settings root with
      | .error fault => .error (.invalid fault)
      | .ok project => .ok project

def locate (w : World) (explicit : Option Path) : Except LoadFault Project :=
  match explicit with
  | some path => load w path
  | none =>
    match w.currentDir with
    | .error cause => .error (.noCurrentDir cause)
    | .ok cwd =>
      match find? w cwd with
      | none => .error .noConfig
      | some path => load w path

end Config

namespace LoadFault

def message : LoadFault → String
  | .noCurrentDir _ => "Failed to read current directory"
  | .noConfig =>
    Config.fileName ++ " not found in current directory or any parent.\n\n" ++
      "💡 Tip: Run 'cxflags init' to create one."
  | .unreadable path _ => "Failed to read " ++ path.text ++ " - check file permissions"
  | .malformed path =>
    "Failed to parse " ++ path.text ++ " - check for syntax errors (missing quotes, brackets)"
  | .invalid fault => (FlagFault.configuration fault).message

def cause? : LoadFault → Option IoFault
  | .noCurrentDir cause | .unreadable _ cause => some cause
  | _ => none

end LoadFault

end CompileFlags
