import CompileFlags.Shell.Expansion
import CompileFlags.Shell.Printing
import CompileFlags.Shell.Test

set_option autoImplicit false

namespace CompileFlags.Shell

/-- A built-in command: what it does with its arguments. It leaves a status. -/
abbrev Builtin := Calls → List Chars → Act Unit

/-- The letters of the options at the front of arguments, and the arguments behind them. -/
def leadingOptions : List Chars → Chars × List Chars
  | ['-', '-'] :: rest => ([], rest)
  | ('-' :: c :: letters) :: rest =>
    let (more, args) := leadingOptions rest
    (c :: letters ++ more, args)
  | args => ([], args)

def printAll (s : Chars) : Act Unit := do
  if ← write 1 s then setStatus 0
  else
    let p ← process
    complain (charsOf (if p.extended then "write error: " ++ IoFault.noStream.reason
      else (p.speaker).getD "" ++ ": I/O error"))
    setStatus 1

namespace Builtin

def echo : Builtin := fun _ args => do
  if (← process).extended then printAll (optionEcho .extendedText args)
  else printAll (basicEcho args)

def basicPrintf : PrintfStyle where
  format := .basicFormat
  argument := .basicText
  modifiers := []
  letters := "diouxXeEfFgGcsb".toList
  quote := id
  notNumber arg := arg ++ charsOf ": expected numeric value"
  notWhole arg := arg ++ charsOf ": not completely converted"
  invalid s :=
    if s.isEmpty then charsOf "missing format character" else s ++ charsOf ": invalid directive"

def extendedPrintf : PrintfStyle where
  format := { Escapes.fullFormat with stop := false }
  argument := .fullText
  modifiers := "hlLjzt".toList
  letters := "diouxXeEfFgGcsbq".toList
  quote := escapedText
  notNumber arg := arg ++ charsOf ": invalid number"
  notWhole arg := arg ++ charsOf ": invalid number"
  invalid s :=
    if s.isEmpty then charsOf "\x60%': missing format character"
    else ['\x60'] ++ s.drop (s.length - 1) ++ charsOf "': invalid format character"

def printf : Builtin := fun _ args => do
  let p ← process
  let args := if args.head? = some ['-', '-'] then args.drop 1 else args
  let style := if p.extended then extendedPrintf else basicPrintf
  let (target, args) := match p.extended, args with
    | true, ['-', 'v'] :: name :: rest => (some (textOf name), rest)
    | _, args => (none, args)
  match args with
  | [] =>
    if p.extended then
      let _ ← write 2 (charsOf "printf: usage: printf [-v var] format [arguments]\n")
      setStatus 2
    else fault (charsOf "usage: printf format [arg ...]")
  | format :: args =>
    let printed := printfText style format args
    for reason in printed.complaints do complain reason
    match target with
    | some name =>
      setVariable name printed.text
      setStatus 0
    | none => printAll printed.text
    if !printed.complaints.isEmpty then setStatus 1
    if printed.isInvalid ∧ !p.extended then setStatus 2

def test : Builtin := fun _ args => do
  let p ← process
  match p.extended, args with
  | true, [['-', 'v'], name] =>
    setStatus (if (p.value? (textOf name)).isSome then 0 else 1)
    return
  | true, [['-', 'o'], _] =>
    setStatus 1
    return
  | _, _ => pure ()
  match Test.holds (← world) p.extended args with
  | .ok answer => setStatus (if answer then 0 else 1)
  | .error reason => fault reason

def bracket : Builtin := fun calls args => do
  if args.getLast? = some [']'] then test calls args.dropLast
  else fault (charsOf (if (← process).extended then "missing \x60]'" else "missing ]"))

def pwd : Builtin := fun _ args => do
  let p ← process
  if (leadingOptions args).1.getLast? = some 'P' then
    printAll (charsOf (← world).base.text ++ ['\n'])
  else printAll (p.folder ++ ['\n'])

end Builtin

end CompileFlags.Shell
