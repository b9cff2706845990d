import CompileFlags.Event
import CompileFlags.Flag
import CompileFlags.SearchList
import CompileFlags.Disk.World

set_option autoImplicit false

/-!
# System directories

The directories that the compiler searches by itself. They come from a fixed list, or from the
compiler, which is asked to preprocess nothing and to be verbose about it; both of its streams are
read, and its exit status is not. How a program is started is not said here: whatever it does, it
answers with what it prints and with the world that it leaves behind.
-/

namespace CompileFlags

open Disk

abbrev Answer := Except IoFault (List UInt8 × List UInt8)

/-- The start of a program by its name with its arguments. -/
abbrev Launcher := World → String → List String → Answer × World

/-- A supplier of the flags for the compiler's own search path. -/
structure SystemSource where
  describe : String
  includes : World → Logged (Except FlagFault FlagList × World)

structure Probe where
  frontend : String
  language : Language
  standard : String
deriving DecidableEq

namespace Probe

def args (p : Probe) : List String :=
  ["-v", "-E", "-x", p.language.name, "-std=" ++ p.standard, "-"]

def commandLine (p : Probe) : String :=
  " ".intercalate (p.frontend :: p.args)

def read (p : Probe) (answer : Answer) (cwd : Except IoFault Path) :
    Except FlagFault (List Path) :=
  match answer with
  | .error cause => .error (.notStarted p.commandLine cause)
  | .ok (output, errors) =>
    match cwd with
    | .error cause => .error (.io cause)
    | .ok cwd =>
      let text := Text.Utf8.decodeLossy output ++ Text.Utf8.decodeLossy errors
      match SearchList.parse? text cwd with
      | none => .error (.noSearchList p.commandLine)
      | some dirs => .ok dirs

def includes (p : Probe) (start : Launcher) (w : World) :
    Logged (Except FlagFault FlagList × World) := do
  .note (.probing p.commandLine)
  let (answer, after) := start w p.frontend p.args
  match p.read answer after.currentDir with
  | .error fault => return (.error fault, after)
  | .ok dirs =>
    .note (.probed dirs.length)
    return (.ok (dirs.map .ofSystemInclude), after)

theorem value_includes (p : Probe) (start : Launcher) (w : World) :
    (p.includes start w).value =
      let run := start w p.frontend p.args
      ((p.read run.1 run.2.currentDir).map (·.map .ofSystemInclude), run.2) := by
  rw [includes, Logged.value_bind]
  dsimp only
  cases p.read (start w p.frontend p.args).1 (start w p.frontend p.args).2.currentDir with
  | error fault => rfl
  | ok dirs => rfl

end Probe

namespace SystemSource

def fixed (dirs : List Path) : SystemSource where
  describe := toString dirs.length ++ " fixed director(ies)"
  includes w := pure (.ok (dirs.map .ofSystemInclude), w)

def failing (fault : FlagFault) : SystemSource where
  describe := "failing"
  includes w := pure (.error fault, w)

def ofProbe (start : Launcher) (p : Probe) : SystemSource where
  describe := p.commandLine
  includes := p.includes start

end SystemSource

end CompileFlags
