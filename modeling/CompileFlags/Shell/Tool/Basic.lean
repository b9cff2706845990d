import CompileFlags.Shell.Redirection

set_option autoImplicit false

namespace CompileFlags.Shell

open Disk

abbrev Tool := Calls → List Chars → Act Unit

namespace Tool

/-- The options of a tool: letters alone, letters with a value, letters that take only a value that
is joined to them, and the long names of letters. -/
structure OptionForms where
  flags : String
  valued : String := ""
  joined : String := ""
  long : List (String × Char) := []
  permutes : Bool := true

/-- The options found among arguments, in order, and the other arguments. -/
structure Given where
  options : List (Char × Chars) := []
  operands : List Chars := []

namespace Given

def has (g : Given) (c : Char) : Bool :=
  g.options.any (·.1 == c)

def value? (g : Given) (c : Char) : Option Chars :=
  (g.options.reverse).lookup c

def values (g : Given) (c : Char) : List Chars :=
  (g.options.filter (·.1 == c)).map (·.2)

def last? (g : Given) (letters : String) : Option Char :=
  ((g.options.filter fun o => letters.toList.contains o.1).getLast?).map (·.1)

def withOption (g : Given) (c : Char) (value : Chars) : Given :=
  { g with options := (c, value) :: g.options }

def withOperand (g : Given) (arg : Chars) : Given :=
  { g with operands := arg :: g.operands }

end Given

/-- The letter of a long option. The start of a name does where only one name has it. -/
def longLetter? (forms : OptionForms) (name : String) : Option Char :=
  match forms.long.lookup name with
  | some c => some c
  | none =>
    match forms.long.filter fun (other, _) => other.startsWith name with
    | (_, c) :: rest => if rest.all (·.2 == c) then some c else none
    | [] => none

def readOptions (forms : OptionForms) : Nat → List Chars → Except Chars Given
  | 0, _ => .ok {}
  | _, [] => .ok {}
  | n + 1, arg :: rest =>
    match arg with
    | ['-', '-'] => .ok { operands := rest }
    | '-' :: '-' :: name =>
      let key := name.takeWhile (· != '=')
      let value := (name.drop key.length).drop 1
      match longLetter? forms (textOf key) with
      | none => .error (charsOf "unrecognized option '" ++ arg ++ ['\x27'])
      | some c =>
        if forms.valued.toList.contains c ∧ '=' ∉ name then
          match rest with
          | value :: rest => do return (← readOptions forms n rest).withOption c value
          | [] =>
            .error (charsOf "option '" ++ arg ++ charsOf "' requires an argument")
        else do return (← readOptions forms n rest).withOption c value
    | '-' :: c :: letters =>
      if forms.flags.toList.contains c then do
        let rest := if letters.isEmpty then rest else ('-' :: letters) :: rest
        return (← readOptions forms n rest).withOption c []
      else if forms.joined.toList.contains c then do
        return (← readOptions forms n rest).withOption c letters
      else if forms.valued.toList.contains c then
        match letters, rest with
        | [], value :: rest => do return (← readOptions forms n rest).withOption c value
        | [], [] =>
          .error (charsOf "option requires an argument -- '" ++ [c, '\x27'])
        | value, rest => do return (← readOptions forms n rest).withOption c value
      else .error (charsOf "invalid option -- '" ++ [c, '\x27'])
    | arg =>
      if forms.permutes then do return (← readOptions forms n rest).withOperand arg
      else .ok { operands := arg :: rest }

def say (text : Chars) : Act Unit := do
  let _ ← write 2 ((← process).name ++ charsOf ": " ++ text ++ ['\n'])

def fail (text : Chars) (status : Nat := 1) : Act Unit := do
  say text
  setStatus status

def misuse (text : Chars) (status : Nat := 1) : Act Unit := do
  say text
  let _ ← write 2 (charsOf "Try '" ++ (← process).name ++
    charsOf " --help' for more information.\n")
  setStatus status

def withOptions (forms : OptionForms) (args : List Chars)
    (body : Given → Act Unit) (status : Nat := 1) : Act Unit := do
  setStatus 0
  match readOptions forms (args.length + args.flatten.length + 1) args with
  | .ok g => body g
  | .error reason => misuse reason status

def quoted (s : Chars) : Chars := ['\x27'] ++ s ++ ['\x27']

def readInput (name : Chars) : Act (Except IoFault Chars) := do
  if name = ['-'] then
    match ← descriptor? 0 with
    | none => return .error .noStream
    | some position =>
      match ← streamAt position with
      | .file place .. =>
        if (((← world).tree.at? place).map Disk.Node.isFolder).getD false then
          return .error .isDirectory
      | _ => pure ()
    return .ok (← readAll 0)
  match deviceDescriptor? name with
  | some fd => return .ok (← readAll fd)
  | none =>
    match (← world).readBytes ⟨textOf name⟩ with
    | .ok content => return .ok (charsOfBytes content)
    | .error cause => return .error cause

def isOutput (name : Chars) : Act Bool := do
  match ← descriptor? 1 with
  | none => return false
  | some position =>
    match ← streamAt position, (← world).place .follow ⟨textOf name⟩ with
    | .file place .., .ok other => return place == other
    | _, _ => return false

def inputs (files : List Chars) (report : Chars → IoFault → Act Unit) :
    Act (List (Chars × Chars)) := do
  let mut found := #[]
  for name in if files.isEmpty then [['-']] else files do
    match ← readInput name with
    | .ok s => found := found.push (name, s)
    | .error cause => report name cause
  return found.toList

def plainReport (status : Nat) (name : Chars) (cause : IoFault) : Act Unit :=
  fail (name ++ charsOf (": " ++ cause.reason)) status

def openReport (name : Chars) (cause : IoFault) : Act Unit :=
  if cause = .isDirectory then
    fail (charsOf "error reading " ++ quoted name ++ charsOf ": Is a directory")
  else
    fail (charsOf "cannot open " ++ quoted name ++ charsOf (" for reading: " ++ cause.reason))

/-- A path without the slashes at its end, unless it is nothing else. -/
def unslashed (s : Chars) : Chars :=
  match (s.reverse.dropWhile (· == '/')).reverse with
  | [] => s.take 1
  | kept => kept

def lastName (s : Chars) : Chars :=
  let s := unslashed s
  if s = ['/'] then s else ((s.reverse).takeWhile (· != '/')).reverse

def put (s : Chars) : Act Unit := do
  if !(← write 1 s) then fail (charsOf ("write error: " ++ IoFault.noStream.reason))

def putLine (s : Chars) : Act Unit := put (s ++ ['\n'])

def fullLines : Chars → List Chars
  | [] => []
  | c :: s =>
    if c = '\n' then ['\n'] :: fullLines s
    else match fullLines s with
      | [] => [[c]]
      | line :: rest => (c :: line) :: rest

def completed (line : Chars) : Chars :=
  if line.getLast? = some '\n' then line else line ++ ['\n']

def unfed (line : Chars) : Chars :=
  if line.getLast? = some '\n' then line.dropLast else line

end Tool

end CompileFlags.Shell
