import CompileFlags.Shell.Expansion
import CompileFlags.Shell.Test

set_option autoImplicit false

namespace CompileFlags.Shell

open Disk

def deviceDescriptor? (path : Chars) : Option Nat :=
  match textOf path with
  | "/dev/stdin" => some 0
  | "/dev/stdout" => some 1
  | "/dev/stderr" => some 2
  | path => if path.startsWith "/dev/fd/" then nat? (path.toList.drop 8) else none

/-- The place of a file that can be written, which comes into being if it is missing. -/
def writablePlace (w : World) (path : Path) : Except IoFault (World × Place) := do
  if path.text.endsWith "/" then
    let _ ← w.place .follow path
    throw .isDirectory
  let place ← w.place .create path
  match w.tree.at? place with
  | some (.file _ rights) => if rights.write then return (w, place) else throw .denied
  | some _ => throw .isDirectory
  | none => return (← w.changeEntry place (·.setNode place (.file [] .data)), place)

def emptied (w : World) (place : Place) : World :=
  match w.tree.at? place with
  | some (.file _ rights) => w.setNode place (.file [] rights)
  | _ => w

def openFile (access : Access) (path : Chars) : Act (Except IoFault Nat) := do
  match deviceDescriptor? path with
  | some fd =>
    match ← descriptor? fd with
    | some position => return .ok position
    | none => return .error .notFound
  | none =>
    let w ← world
    let path : Path := ⟨textOf path⟩
    if Test.isNull w path then return .ok (← newStream .nowhere)
    match access with
    | .read =>
      match w.place .follow path with
      | .error cause => return .error cause
      | .ok place =>
        match w.tree.at? place with
        | some n =>
          if n.rights.read then return .ok (← newStream (.file place 0 .read))
          else return .error .denied
        | none => return .error .notFound
    | access =>
      match writablePlace w path with
      | .error cause => return .error cause
      | .ok (w, place) =>
        setWorld w
        if access = .write then setWorld (emptied w place)
        return .ok (← newStream (.file place 0 access))

def openReason (extended : Bool) (access : Access) (path : Chars) (cause : IoFault) : Chars :=
  if extended then path ++ charsOf ": " ++ charsOf cause.reason
  else
    let isMissing := cause = .notFound ∨ cause = .notDirectory
    if access = .read then
      charsOf "cannot open " ++ path ++ charsOf ": " ++
        if isMissing then charsOf "No such file" else charsOf cause.reason
    else
      charsOf "cannot create " ++ path ++ charsOf ": " ++
        if isMissing then charsOf "Directory nonexistent" else charsOf cause.reason

/-- Give a reason why a redirection fails, without the name of any command. -/
def redirectFault {α : Type} (text : Chars) : Act α := do
  modifyProcess ({ · with speaker := none })
  fault text (if (← process).extended then 1 else 2)

def openTarget (calls : Calls) (access : Access) (force : Bool) (target : Word) : Act Nat := do
  let path ← expandText calls target
  let p ← process
  let w ← world
  if access = .write ∧ !force ∧ p.hasOption 'C' ∧ Test.property w "-f" path then
    redirectFault (if p.extended then path ++ charsOf ": cannot overwrite existing file"
      else charsOf "cannot create " ++ path ++ charsOf ": File exists")
  match ← openFile access path with
  | .ok position => return position
  | .error cause => redirectFault (openReason p.extended access path cause)

def applyRedirect (calls : Calls) (r : Redirect) : Act Unit := do
  match r with
  | .file fd access force target =>
    setDescriptor fd (some (← openTarget calls access force target))
  | .copy fd source =>
    let text ← expandText calls source
    if text = ['-'] then setDescriptor fd none
    else
      let moves := text.getLast? = some '-'
      match nat? (if moves then text.dropLast else text) with
      | none =>
        redirectFault (if (← process).extended then text ++ charsOf ": ambiguous redirect"
          else charsOf "Bad fd number")
      | some n =>
        match ← descriptor? n with
        | none => redirectFault (natText n ++ charsOf ": Bad file descriptor")
        | some position =>
          setDescriptor fd (some position)
          if moves then setDescriptor n none
  | .hereText fd position =>
    let w := (← get).texts.getD position []
    let text ← expandText calls w
    setDescriptor fd (some (← newStream (.held text)))
  | .hereWord fd w =>
    let text ← expandText calls w
    setDescriptor fd (some (← newStream (.held (text ++ ['\n']))))
  | .bothOutputs access target =>
    let position ← openTarget calls access false target
    setDescriptor 1 (some position)
    setDescriptor 2 (some position)

def applyRedirects (calls : Calls) (rs : List Redirect) : Act Bool := do
  let speaker := (← process).speaker
  let result ← attempt (for r in rs do applyRedirect calls r)
  modifyProcess ({ · with speaker := speaker })
  match result with
  | .ok _ => return true
  | .error .fault => return false
  | .error signal => throw signal

def keepingDescriptors {α : Type} (body : Act α) : Act α := do
  let descriptors := (← process).descriptors
  let result ← attempt body
  modifyProcess ({ · with descriptors := descriptors })
  match result with
  | .ok a => return a
  | .error signal => throw signal

end CompileFlags.Shell
