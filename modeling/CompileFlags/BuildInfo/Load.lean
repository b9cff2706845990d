import CompileFlags.BuildInfo.Basic
import CompileFlags.Disk.World
import CompileFlags.Event

set_option autoImplicit false

namespace CompileFlags.BuildInfo

open Disk

def fileName : String := "conanbuildinfo.txt"

def load (w : World) (path : Path) : Logged (Except FlagFault FlagList) :=
  if w.isFile path then
    match w.readText path with
    | .error cause => return .error (.io cause)
    | .ok content => do
      let flags := parse content (w.absolute (path.parent?.getD ⟨"."⟩))
      .note (.buildInfoRead flags.length path)
      return .ok flags
  else return .error (.noBuildInfo path)

end CompileFlags.BuildInfo
