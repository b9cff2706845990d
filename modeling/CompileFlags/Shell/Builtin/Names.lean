import CompileFlags.Shell.Builtin.Variables
import CompileFlags.Shell.Image

set_option autoImplicit false

namespace CompileFlags.Shell

open Disk

def programFolders : Act (List Path) := do
  match ← variableValue? "PATH" with
  | some path => return (Text.splitOn ':' path).map fun dir => ⟨textOf dir⟩
  | none => return []

def programPath? (name : Chars) : Act (Option Chars) := do
  let w ← world
  if '/' ∈ name then
    let found := if (← process).extended then Test.property w "-x" name else Test.property w "-e" name
    return if found then some name else none
  let dirs ← programFolders
  return (dirs.find? fun dir =>
    let path := dir.child (textOf name)
    w.isFile path && Test.allows Rights.execute w path).map fun dir => charsOf (dir.child (textOf name)).text

def rememberedPrograms : Act (List (String × Chars)) := do
  let (path, programs) := (← process).remembered
  return if (← variableValue? "PATH").getD [] = path then programs else []

def rememberProgram (name : Chars) : Act Bool := do
  if '/' ∈ name then return true
  match ← programPath? name with
  | none => return false
  | some path =>
    let known ← rememberedPrograms
    let search := (← variableValue? "PATH").getD []
    if !known.any (·.1 == textOf name) then
      modifyProcess ({ · with remembered := (search, known ++ [(textOf name, path)]) })
    return true

def bucket (size : Nat) (name : String) : Nat :=
  let bytes := (charsOf name).map Char.toNat
  (bytes.headD 0 * 16 + bytes.foldl (· + ·) 0) % size

def byBucket {α : Type} (size : Nat) (entries : List (String × α)) : List (String × α) :=
  entries.mergeSort fun a b => bucket size a.1 ≤ bucket size b.1

namespace Builtin

def aliasLine (extended : Bool) (name : String) (text : Chars) : Chars :=
  charsOf ((if extended then "alias " else "") ++ name ++ "=") ++ quotedText text ++ ['\n']

def alias_ : Builtin := fun _ args => do
  let p ← process
  let args := if p.extended ∧ args.head? = some ['-', 'p'] then args.drop 1 else args
  setStatus 0
  if args.isEmpty then
    printAll ((byBucket 39 p.aliases).flatMap fun (name, text) => aliasLine p.extended name text)
  for arg in args do
    match splitAssignment arg with
    | (name, some text) =>
      let name := textOf name
      modifyProcess fun p =>
        if p.aliases.any (·.1 == name) then
          { p with aliases := p.aliases.map fun a => if a.1 = name then (name, text) else a }
        else { p with aliases := p.aliases ++ [(name, text)] }
    | (name, none) =>
      match p.aliases.lookup (textOf name) with
      | some text => let _ ← write 1 (aliasLine p.extended (textOf name) text)
      | none =>
        if p.extended then complain (name ++ charsOf ": not found")
        else let _ ← write 2 (charsOf "alias: " ++ name ++ charsOf " not found\n")
        setStatus 1

def unalias : Builtin := fun _ args => do
  setStatus 0
  if args.head? = some ['-', 'a'] then modifyProcess ({ · with aliases := [] })
  else
    for name in args do
      let p ← process
      if p.aliases.any (·.1 == textOf name) then
        modifyProcess ({ · with aliases := p.aliases.filter (·.1 != textOf name) })
      else
        if p.extended then complain (name ++ charsOf ": not found")
        else let _ ← write 2 (charsOf "unalias: " ++ name ++ charsOf " not found\n")
        setStatus 1

def hash (isBuiltin : String → Bool) : Builtin := fun _ args => do
  let p ← process
  setStatus 0
  if args.head? = some ['-', 'r'] then modifyProcess ({ · with remembered := ([], []) })
  else if args.isEmpty then
    let known ← rememberedPrograms
    printAll ((byBucket 31 known).flatMap fun (_, path) => path ++ ['\n'])
  for name in args.filter (·.head? != some '-') do
    let named := textOf name
    if !(isBuiltin named) ∧ (p.functions.lookup named).isNone then
      if !(← rememberProgram name) then
        complain (name ++ charsOf ": not found")
        setStatus 1

def accessBits (letters : Chars) : Nat :=
  (if letters.contains 'r' then 4 else 0) + (if letters.contains 'w' then 2 else 0) +
    if letters.contains 'x' then 1 else 0

def modeClause? (mode : Nat) (clause : Chars) : Option Nat :=
  let who := clause.takeWhile "ugoa".toList.contains
  match clause.drop who.length with
  | op :: letters =>
    if "+-=".toList.contains op ∧ letters.all "rwxXst".toList.contains then
      let bits := accessBits letters
      let concerns (c : Char) : Bool := who.isEmpty || who.contains 'a' || who.contains c
      let part (c : Char) (shift : Nat) : Nat :=
        let old := mode / shift % 8
        (if !concerns c then old
          else if op = '+' then old ||| bits
          else if op = '-' then old &&& (7 - bits)
          else bits) * shift
      some (part 'u' 64 + part 'g' 8 + part 'o' 1)
    else none
  | [] => none

def modeText (mode : Nat) : Chars :=
  let letters (n : Nat) : Chars :=
    (if n &&& 4 ≠ 0 then ['r'] else []) ++ (if n &&& 2 ≠ 0 then ['w'] else []) ++
      if n &&& 1 ≠ 0 then ['x'] else []
  charsOf "u=" ++ letters (mode / 64 % 8) ++ charsOf ",g=" ++ letters (mode / 8 % 8) ++
    charsOf ",o=" ++ letters (mode % 8)

def umask : Builtin := fun _ args => do
  let mask := (← process).mask
  let (options, args) := match args with
    | ['-', 'S'] :: rest => (['S'], rest)
    | args => ([], args)
  setStatus 0
  match args with
  | [] =>
    if options.isEmpty then
      let digits := Nat.toDigits 8 mask
      printAll (List.replicate (4 - digits.length) '0' ++ digits ++ ['\n'])
    else printAll (modeText (0o777 - mask) ++ ['\n'])
  | mode :: _ =>
    if mode.head?.any Char.isDigit then
      if mode.all isOctalDigit then modifyProcess ({ · with mask := octalValue mode % 0o1000 })
      else fault (charsOf "Illegal number: " ++ mode)
    else
      match (Text.splitOn ',' mode).foldlM modeClause? (0o777 - mask) with
      | some mode => modifyProcess ({ · with mask := 0o777 - mode })
      | none => fault (charsOf "Illegal mode: " ++ mode)

end Builtin

end CompileFlags.Shell
