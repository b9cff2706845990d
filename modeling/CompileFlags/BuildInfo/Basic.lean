import CompileFlags.Flag
import CompileFlags.Text.Blank

set_option autoImplicit false

namespace CompileFlags.BuildInfo

inductive Section where
  | includeDirs
  | defines
  | other
deriving DecidableEq

def isHeader (line : List Char) : Bool :=
  line.head? == some '['

def Section.ofHeader (line : List Char) : Section :=
  if line = "[includedirs]".toList then .includeDirs
  else if line = "[defines]".toList then .defines
  else .other

def Section.flag? (base : Path) (line : List Char) : Section → Option Flag
  | .includeDirs => some (.ofSystemInclude (base.absolutize ⟨String.ofList line⟩))
  | .defines => some (.ofDefine (String.ofList line))
  | .other => none

def flagsFrom (base : Path) : Section → List (List Char) → FlagList
  | _, [] => []
  | at_, line :: rest =>
    if line.isEmpty then flagsFrom base at_ rest
    else if isHeader line then flagsFrom base (.ofHeader line) rest
    else (at_.flag? base line).toList ++ flagsFrom base at_ rest

def parse (content : String) (base : Path) : FlagList :=
  flagsFrom base .other ((Text.lines content.toList).map Text.trimChars)

end CompileFlags.BuildInfo
