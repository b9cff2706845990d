import CompileFlags.Disk.World
import CompileFlags.Shell.Bytes

set_option autoImplicit false

namespace CompileFlags.Shell

open Disk

namespace Image

def binaryMark : List UInt8 := [0x7f, 0x45, 0x4c, 0x46, 0x02, 0x01, 0x01, 0x00]

def fileOf (tool : String) : Node :=
  .file (binaryMark ++ Text.Utf8.encode tool) .all

def tool? (content : List UInt8) : Option String :=
  if binaryMark.isPrefixOf content then Text.Utf8.decode? (content.drop binaryMark.length) else none

def headLength : Nat := 256

/-- The interpreter and its argument in the first line of a file. The line has to end in the part
looked at, or at least the name of the interpreter has to. -/
def interpreter? (content : List UInt8) : Option (List Chars) :=
  match charsOfBytes (content.take headLength) with
  | '#' :: '!' :: rest =>
    let isCut := headLength ≤ content.length ∧ !rest.contains '\n'
    let line := (rest.takeWhile (· != '\n')).dropWhile isBlank
    let name := line.takeWhile fun c => !isBlank c && c != '\x00'
    let behind := line.drop name.length
    let argument := ((behind.dropWhile isBlank).reverse.dropWhile isBlank).reverse
    if name.isEmpty ∨ (isCut ∧ behind.isEmpty) then none
    else some (if argument.isEmpty then [name] else [name, argument])
  | _ => none

def nestingLimit : Nat := 5

def load (w : World) : Nat → Path → List Chars → Except IoFault (String × List Chars)
  | nesting, path, argv => do
    match ← w.node .follow path with
    | .file content rights =>
      if !rights.execute then throw .denied
      match tool? content with
      | some tool => return (tool, argv)
      | none =>
        match interpreter? content with
        | none => throw .notExecutable
        | some interpreter =>
          match nesting with
          | 0 => throw .tooManyLinks
          | nesting + 1 =>
            load w nesting ⟨textOf (interpreter.headD [])⟩
              (interpreter ++ charsOf path.text :: argv.drop 1)
    | _ => throw .denied

def argumentLimit : Nat := 131071

abbrev Loader := Path → List Chars → Except IoFault (String × List Chars)

def search (loader : Loader) (name : String) (argv : List Chars) (refused : IoFault) :
    List Path → Except IoFault (String × List Chars)
  | [] => .error refused
  | dir :: dirs =>
    match loader (dir.child name) argv with
    | .error .denied => search loader name argv .denied dirs
    | .error .notFound | .error .notDirectory => search loader name argv refused dirs
    | found => found

def findWith (loader : Loader) (dirs : List Path) (name : String) (argv : List Chars) :
    Except IoFault (String × List Chars) :=
  if name = "" then .error .notFound
  else if '/' ∈ name.toList then loader ⟨name⟩ argv
  else if nameLimit < name.utf8ByteSize then .error .nameTooLong
  else search loader name argv .notFound dirs

def find (w : World) (dirs : List Path) (name : String) (argv : List Chars) :
    Except IoFault (String × List Chars) :=
  findWith (load w nestingLimit) dirs name argv

/-- Whether a shell takes a file for anything but a script: there are strange characters in its first
line, or for the extended shell, it looks like a binary file. -/
def isStrange (extended : Bool) (content : List UInt8) : Bool :=
  let line := (content.take headLength).takeWhile (· != 0x0a)
  if extended then line.contains 0 || (binaryMark.take 4).isPrefixOf content
  else line.any fun b => b == 0x7f || (b < 0x20 && !(9 ≤ b && b ≤ 13) && b != 0x1b)

def findOrScript (w : World) (extended : Bool) (dirs : List Path) (name : String)
    (argv : List Chars) : Except IoFault (String × List Chars) :=
  findWith (fun path argv =>
    match load w nestingLimit path argv, w.readBytes path with
    | .error .notExecutable, .ok content =>
      if isStrange extended content then .error .notExecutable
      else
        let shell := if extended then ("bash", "/bin/bash") else ("sh", "/bin/sh")
        .ok (shell.1, charsOf shell.2 :: charsOf path.text :: argv.drop 1)
    | found, _ => found) dirs name argv

end Image

end CompileFlags.Shell
