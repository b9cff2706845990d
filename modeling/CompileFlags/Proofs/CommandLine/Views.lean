import CompileFlags.CommandLine.Run
import CompileFlags.Proofs.Json.RoundTrip
import CompileFlags.Proofs.Resolution.AbsoluteIncludes
import CompileFlags.Proofs.Table.Shrinking

set_option autoImplicit false

namespace CompileFlags.CommandLine

open Disk

/-- A run that ends in failure and prints nothing. -/
structure Outcome.Failed (o : Outcome) : Prop where
  code : o.code = 1
  output : o.output = []

section Report

variable {α : Type} (i : Invocation) {result : Logged (Except FlagFault α × World)}
  (print : α → List String)

end Report

/-- The ways to ask for the flags of a file, and for those of the project. -/
inductive View where
  | plain
  | json
  | sources
  | project
  | bare

namespace View

def words (file : String) : View → List String
  | .plain => ["flags", file]
  | .json => ["flags", file, "--json"]
  | .sources => ["explain", file]
  | .project => ["flags"]
  | .bare => []

def command (file : Path) : View → Command
  | .plain => .flags (some file) false
  | .json => .flags (some file) true
  | .sources => .explain file
  | .project | .bare => .flags none false

end View

namespace Half

end Half

def View.shown (start : Launcher) (w : World) (config : Option Path) (verbose quiet : Bool)
    (file : Path) (view : View) : Outcome :=
  Invocation.run ⟨config, verbose, quiet, view.command file⟩ start w

section

variable {start : Launcher} {w : World} {config : Option Path} (verbose quiet : Bool)

end

end CompileFlags.CommandLine
