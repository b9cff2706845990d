import CompileFlags.Shell.Tool.Files

set_option autoImplicit false

namespace CompileFlags.Shell.Tool

open Disk

namespace Find

inductive Criterion where
  | yes
  | no
  | name (p : Pattern) (folds : Bool)
  | path (p : Pattern)
  | kind (letters : Chars)
  | empty
  | executable
  | prune
  | print (stop : Char)
  | delete
  | exec (words : List Chars) (collects : Bool)
  | negation (c : Criterion)
  | both (a b : Criterion)
  | either (a b : Criterion)

/-- How deep the search goes, and whether folders come after what is in them. -/
structure Limits where
  least : Nat := 0
  most : Nat := 64
  inside : Bool := false

abbrev Parts := StateT (List Chars × Limits) (Except Chars)

def patternOf (s : Chars) : Pattern :=
  Pattern.ofMarked { caret := true } (s.map fun c => (c, false))

def operand (option : String) : Parts Chars := do
  let (args, limits) ← get
  match args with
  | arg :: rest =>
    set (rest, limits)
    return arg
  | [] => throw (charsOf ("missing argument to \x60" ++ option ++ "'"))

def isAction : Criterion → Bool
  | .print _ | .delete | .exec .. => true
  | .negation c => isAction c
  | .both a b | .either a b => isAction a || isAction b
  | _ => false

mutual

def anyOf : Nat → Parts Criterion
  | 0 => return .yes
  | n + 1 => do
    let a ← allOf n
    match (← get).1 with
    | op :: rest =>
      if op = charsOf "-o" ∨ op = charsOf "-or" then
        modify fun s => (rest, s.2)
        return .either a (← anyOf n)
      else return a
    | [] => return a

def allOf : Nat → Parts Criterion
  | 0 => return .yes
  | n + 1 => do
    let a ← single n
    match (← get).1 with
    | [] => return a
    | op :: rest =>
      if op = charsOf "-o" ∨ op = charsOf "-or" ∨ op = [')'] then return a
      else
        if op = charsOf "-a" ∨ op = charsOf "-and" then modify fun s => (rest, s.2)
        return .both a (← allOf n)

def single : Nat → Parts Criterion
  | 0 => return .yes
  | n + 1 => do
    let option := textOf (← operand "")
    match option with
    | "!" | "-not" => return .negation (← single n)
    | "(" =>
      let c ← anyOf n
      let _ ← operand "("
      return c
    | "-true" => return .yes
    | "-false" => return .no
    | "-name" => return .name (patternOf (← operand option)) false
    | "-iname" => return .name (patternOf ((← operand option).map Char.toLower)) true
    | "-path" | "-wholename" => return .path (patternOf (← operand option))
    | "-type" => return .kind (← operand option)
    | "-empty" => return .empty
    | "-executable" => return .executable
    | "-prune" => return .prune
    | "-print" => return .print '\n'
    | "-print0" => return .print '\x00'
    | "-delete" =>
      modify fun s => (s.1, { s.2 with inside := true })
      return .delete
    | "-depth" =>
      modify fun s => (s.1, { s.2 with inside := true })
      return .yes
    | "-maxdepth" =>
      let most := (nat? (← operand option)).getD 0
      modify fun s => (s.1, { s.2 with most := most })
      return .yes
    | "-mindepth" =>
      let least := (nat? (← operand option)).getD 0
      modify fun s => (s.1, { s.2 with least := least })
      return .yes
    | "-exec" | "-execdir" | "-ok" =>
      let args := (← get).1
      let words := args.takeWhile fun w => w != [';'] && w != ['+']
      match args.drop words.length with
      | stop :: rest =>
        modify fun s => (rest, s.2)
        return .exec words (stop == ['+'])
      | [] => throw (charsOf ("missing argument to \x60" ++ option ++ "'"))
    | "-newer" | "-size" | "-mtime" | "-mmin" | "-perm" | "-user" | "-group" =>
      let _ ← operand option
      return .yes
    | "-follow" | "-xdev" | "-mount" | "-ls" => return .yes
    | option => throw (charsOf ("unknown predicate \x60" ++ option ++ "'"))

end

/-- What an evaluation leaves besides its answer: the paths collected for the commands that take
many, and whether the folder is entered. -/
structure Trace where
  collected : List (List Chars × Chars) := []
  enters : Bool := true

def kindOf : Node → Char
  | .file .. => 'f'
  | .folder .. => 'd'
  | .link _ => 'l'

def filled (path : Chars) (words : List Chars) : List Chars :=
  words.map fun w => if w = ['\x7b', '\x7d'] then path else w

def eval (calls : Calls) (path : Chars) (n : Node) : Criterion → Trace → Act (Bool × Trace)
  | .yes, t => return (true, t)
  | .no, t => return (false, t)
  | .name p folds, t =>
    let name := lastName path
    return (p.isMatch (if folds then name.map Char.toLower else name), t)
  | .path p, t => return (p.isMatch path, t)
  | .kind letters, t => return (letters.contains (kindOf n), t)
  | .empty, t => return (match n with
      | .file content _ => content.isEmpty
      | .folder entries _ => entries.isEmpty
      | .link _ => false, t)
  | .executable, t => do return (Test.allows Disk.Rights.execute (← world) (pathOfChars path), t)
  | .prune, t => return (true, { t with enters := false })
  | .print stop, t => do
    put (path ++ [stop])
    return (true, t)
  | .delete, t => do
    if path ≠ ['.'] then
      change (charsOf "cannot delete " ++ quoted path) (·.remove (pathOfChars path))
    return (true, t)
  | .exec words false, t => do
    match ← calls.start (filled path words) with
    | .ok status => return (status == 0, t)
    | .error cause =>
      say (quoted (words.headD []) ++ charsOf (": " ++ cause.reason))
      return (false, t)
  | .exec words true, t => return (true, { t with collected := t.collected ++ [(words, path)] })
  | .negation c, t => do
    let (answer, t) ← eval calls path n c t
    return (!answer, t)
  | .both a b, t => do
    let (answer, t) ← eval calls path n a t
    if answer then eval calls path n b t else return (false, t)
  | .either a b, t => do
    let (answer, t) ← eval calls path n a t
    if answer then return (true, t) else eval calls path n b t

def visit (calls : Calls) (c : Criterion) (limits : Limits) : Nat → Nat → Chars → Trace → Act Trace
  | 0, _, _, t => return t
  | levels + 1, depth, path, t => do
    match ownNode (← world) path with
    | .error cause =>
      if depth = 0 then fail (quoted path ++ charsOf (": " ++ cause.reason))
      return t
    | .ok (_, n) =>
      let here (t : Trace) : Act Trace := do
        if depth < limits.least then return t
        else return (← eval calls path n c t).2
      let t ← if limits.inside then pure t else here { t with enters := true }
      let mut t := t
      if t.enters ∧ depth < limits.most then
        for name in (n.entries.map fun e => charsOf e.1).mergeSort PathPattern.byBytes do
          t ← visit calls c limits levels (depth + 1) (inside path name) t
      if limits.inside then here { t with enters := true } else return t

end Find

def find : Tool := fun calls args => do
  setStatus 0
  let args := args.filter fun arg => !(["-H", "-L", "-P"].contains (textOf arg))
  let isStart (arg : Chars) : Bool := match arg with
    | '-' :: _ :: _ => false
    | ['('] | ['!'] | [')'] => false
    | _ => true
  let starts := args.takeWhile isStart
  let expression := args.drop starts.length
  let read : Except Chars (Find.Criterion × List Chars × Find.Limits) :=
    if expression.isEmpty then .ok (.yes, [], {})
    else (Find.anyOf (8 * expression.length + 8)).run (expression, {})
  match read with
  | .error reason => fail reason
  | .ok (c, _, limits) =>
    let c := if Find.isAction c then c else .both c (.print '\n')
    let mut trace : Find.Trace := {}
    for path in if starts.isEmpty then [['.']] else starts do
      trace ← Find.visit calls c limits 64 0 path { trace with enters := true }
    let commands := (trace.collected.map (·.1)).eraseDups
    for words in commands do
      let paths := (trace.collected.filter (·.1 == words)).map (·.2)
      let argv := words.flatMap fun w => if w = ['\x7b', '\x7d'] then paths else [w]
      match ← calls.start argv with
      | .ok status => if status ≠ 0 then setStatus 1
      | .error cause => fail (quoted (words.headD []) ++ charsOf (": " ++ cause.reason))

end CompileFlags.Shell.Tool
