import CompileFlags.CommandLine.Arguments
import CompileFlags.CommandLine.Report
import CompileFlags.CommandLine.Usage
import CompileFlags.Config.Printer

set_option autoImplicit false

/-!
# Running a command line

A run takes the world and the words of a command line to an exit code, the lines on the two
streams, and the world afterwards. Code 0 is success, 1 failure and 2 a command line that asks for
nothing. The command `init` writes a file, never over one that is there; all else that changes the
world is a compiler's doing.
-/

namespace CompileFlags.CommandLine

open Disk

structure Outcome where
  code : Nat := 0
  output : List String := []
  errors : List String := []
  world : World

def Invocation.shows (i : Invocation) (level : Level) : Bool :=
  !i.quiet && (i.verbose || level = .warn)

def Invocation.eventLines (i : Invocation) (events : List Event) : List String :=
  (events.filter fun e => i.shows e.level).map eventLine

def fail (w : World) (lines : List String) : Outcome :=
  { code := 1, errors := lines, world := w }

def Invocation.report {α : Type} (i : Invocation)
    (result : Logged (Except FlagFault α × World)) (print : α → List String) : Outcome :=
  match result.value with
  | (.error fault, w) => fail w (i.eventLines result.events ++ faultLines fault)
  | (.ok value, w) => { output := print value, errors := i.eventLines result.events, world := w }

def Invocation.withProject (i : Invocation) (w : World) (use : Project → Outcome) : Outcome :=
  match Config.locate w i.config with
  | .error fault => fail w (errorLines fault.message fault.cause?)
  | .ok p => use p

/-- A new configuration file with the defaults, unless there is one. -/
def createConfig (w : World) : Outcome :=
  let path : Path := ⟨Config.fileName⟩
  if w.hasPath path then
    { output := ["! " ++ Config.fileName ++ " already exists, not overwriting"], world := w }
  else
    match w.writeFile path (Text.Utf8.encode ({} : Settings).text) with
    | .error cause => fail w (errorLines ("Failed to write " ++ Config.fileName) (some cause))
    | .ok w => { output := ["✓ Created " ++ Config.fileName], world := w }

def Invocation.run (i : Invocation) (start : Launcher) (w : World) : Outcome :=
  match i.command with
  | .flags file json => i.withProject w fun p =>
    i.report (p.resolve (.ofProbe start p.probe) w (file.getD .empty)) fun flags =>
      if json then [jsonText flags] else flags.tokens
  | .explain file => i.withProject w fun p =>
    let system := SystemSource.ofProbe start p.probe
    i.report (p.sections system w file) (explanation p system file)
  | .probe => i.withProject w fun p => i.report (p.probe.includes start w) FlagList.tokens
  | .init => createConfig w
  | .completion terminal => { output := completionScript terminal, world := w }

def run (start : Launcher) (w : World) (args : List String) : Outcome :=
  match parse args with
  | .run invocation => invocation.run start w
  | .help verb => { output := usage verb, world := w }
  | .version verb => { output := [versionText verb], world := w }
  | .misuse => { code := 2, errors := [usageLine none], world := w }

end CompileFlags.CommandLine
