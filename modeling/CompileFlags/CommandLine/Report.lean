import CompileFlags.Config.Load
import CompileFlags.Json.Printer
import CompileFlags.Resolution
import CompileFlags.Table

set_option autoImplicit false

namespace CompileFlags.CommandLine

def jsonText (flags : FlagList) : String :=
  "\x7b\n  \"flags\": " ++ Json.arrayText "  " flags.tokens ++ ",\n  \"do_cache\": true\n\x7d"

def terminalWidth : Nat := 80

def sectionRow (source : Source) (flags : FlagList) : List String :=
  [source.name, toString flags.length,
    if flags.isEmpty then "-" else " ".intercalate flags.tokens]

def sectionTable (sections : Sections) : Table :=
  (sections.map fun (source, flags) => sectionRow source flags).foldl Table.add
    { headers := ["Source", "Count", "Flags"] }

def explanation (p : Project) (system : SystemSource) (file : Path) (sections : Sections) :
    List String :=
  ["⚙️ " ++ file.text ++ " (" ++ p.language.name ++ " -std=" ++ p.standard ++ ")",
    "   Project root: " ++ p.root.text,
    "   Compiler probe: " ++ system.describe] ++
  (sectionTable sections).render terminalWidth false ++
  ["✓ " ++ toString (sections.flatMap (·.2)).length ++ " flag(s) total"]

def levelName : Level → String
  | .warn => "WARN"
  | .debug => "DEBUG"

def eventLine (e : Event) : String :=
  levelName e.level ++ ": " ++
    "\n    ".intercalate ((Text.splitOn '\n' e.message.toList).map String.ofList)

def causeLines (cause : IoFault) : List String :=
  ["", "Caused by:", "    " ++ cause.message]

def errorLines (message : String) (cause : Option IoFault) : List String :=
  ("Error: " ++ message) :: (cause.map causeLines).getD []

def probeLines (command : String) (cause : Option IoFault) : List String :=
  ["x Failed to acquire system includes from compiler"] ++
    (cause.map fun cause => "   " ++ cause.message).toList ++
    ["Tried with the following commandline:", "", command]

def faultLines (fault : FlagFault) : List String :=
  match fault with
  | .noSearchList command => probeLines command none
  | .notStarted command cause => probeLines command (some cause)
  | .io cause => errorLines fault.message (some cause)
  | _ => errorLines fault.message none

end CompileFlags.CommandLine
