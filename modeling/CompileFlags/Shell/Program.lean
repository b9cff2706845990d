import CompileFlags.Shell.Run

set_option autoImplicit false

/-!
# Starting programs

A program runs to its end on a machine of its own: nothing is on its input, its two outputs are
collected, and the files that it leaves behind are those of the world afterwards.
-/

namespace CompileFlags.Shell

open Disk

def startMachine (w : World) : Machine where
  world := w
  streams := #[.nowhere, .collected [], .collected []]
  process :=
    let path := ":".intercalate (w.programDirs.map Path.text)
    freshProcess [] [("PATH", { value := .text (charsOf path), exported := true })]
      [(0, 0), (1, 1), (2, 2)]
  texts := #[]
  serial := 1

def collectedOn (m : Machine) (position : Nat) : List UInt8 :=
  match m.streams.getD position .nowhere with
  | .collected pieces => bytesOfChars pieces.reverse.flatten
  | _ => []

/-- The outcome of a tool with its arguments, and the world that it leaves behind. -/
def runTool (w : World) (tool : String) (argv : List Chars) :
    (List UInt8 × List UInt8) × World :=
  let m := ((Tool.run (levels levelLimit) tool argv).run.run (startMachine w)).2
  ((collectedOn m 1, collectedOn m 2), { m.world with cwd := livingFolder m.world w.cwd })

def startProgram (w : World) (name : String) (args : List String) :
    Except IoFault (List UInt8 × List UInt8) × World :=
  if (name :: args).any (·.contains '\x00') then (.error .nulInArguments, w)
  else if (name :: args).any fun arg => Image.argumentLimit < arg.utf8ByteSize then
    (.error .argumentsTooLong, w)
  else match Image.find w w.programDirs name ((name :: args).map charsOf) with
    | .error cause => (.error cause, w)
    | .ok (tool, argv) =>
      let (printed, after) := runTool w tool argv
      (.ok printed, after)

end CompileFlags.Shell
