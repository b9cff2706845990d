import CompileFlags.Shell.Builtin.Output
import CompileFlags.Shell.Tool.Files

set_option autoImplicit false

namespace CompileFlags.Shell.Tool

open Disk

def folderName (s : Chars) : Chars :=
  let trim (s : Chars) : Chars := (s.reverse.dropWhile (· == '/')).reverse
  let kept := trim s
  let before := (kept.reverse.dropWhile (· != '/')).reverse
  if kept.isEmpty then if s.isEmpty then ['.'] else ['/']
  else if before.isEmpty then ['.']
  else if (trim before).isEmpty then ['/'] else trim before

def basename : Tool := fun _ args =>
  withOptions {
    flags := "az"
    valued := "s"
    long := [("multiple", 'a'), ("suffix", 's')]
    permutes := false } args fun g => do
    let name (suffix path : Chars) : Chars :=
      let name := lastName path
      let kept := name.take (name.length - suffix.length)
      if !suffix.isEmpty ∧ !kept.isEmpty ∧ kept ++ suffix = name then kept else name
    if g.has 'a' ∨ g.has 's' then
      for path in g.operands do putLine (name ((g.value? 's').getD []) path)
    else match g.operands with
      | [] => misuse (charsOf "missing operand")
      | [path] => putLine (name [] path)
      | [path, suffix] => putLine (name suffix path)
      | _ :: _ :: extra :: _ => misuse (charsOf "extra operand " ++ quoted extra)

def dirname : Tool := fun _ args =>
  withOptions { flags := "z" } args fun g => do
    if g.operands.isEmpty then misuse (charsOf "missing operand")
    for path in g.operands do putLine (folderName path)

def echo : Tool := fun _ args => do
  setStatus 0
  put (optionEcho .fullText args)

def printfStyle : PrintfStyle where
  format := .fullFormat
  argument := .fullText
  modifiers := "hlLjzt".toList
  letters := "diouxXeEfFgGcsbq".toList
  quote := fun s =>
    if !s.isEmpty ∧ s.all fun c => c.isAlphanum || "_-+=./:,@%^".toList.contains c then s
    else if s.contains '\x27' ∧ !s.any fun c => c == '"' || c == '$' || c == '\x60' || c == '\\' then
      ['"'] ++ s ++ ['"']
    else requotedText s
  notNumber arg := quoted arg ++ charsOf ": expected a numeric value"
  notWhole arg := quoted arg ++ charsOf ": value not completely converted"
  invalid s :=
    (if s.isEmpty then ['%'] else s) ++ charsOf ": invalid conversion specification"

def printf : Tool := fun _ args => do
  let args := if args.head? = some ['-', '-'] then args.drop 1 else args
  match args with
  | [] => misuse (charsOf "missing operand")
  | format :: args =>
    setStatus 0
    let printed := printfText printfStyle format args
    put printed.text
    for reason in printed.complaints do fail reason

def test (bracket : Bool) : Tool := fun _ args => do
  let answer (args : List Chars) : Act Unit := do
    match Test.holds (← world) true args with
    | .ok found => setStatus (if found then 0 else 1)
    | .error reason => fail reason 2
  if bracket then
    if args.getLast? = some [']'] then answer args.dropLast else fail (charsOf "missing ']'") 2
  else answer args

def decimal? (s : Chars) : Option (Int × Nat) :=
  let (negative, ds) := match s with
    | '-' :: ds => (true, ds)
    | '+' :: ds => (false, ds)
    | ds => (false, ds)
  let whole := ds.takeWhile Char.isDigit
  let part? : Option Chars := match ds.drop whole.length with
    | [] => some []
    | '.' :: part => if part.all Char.isDigit then some part else none
    | _ => none
  part?.bind fun part =>
    if whole.isEmpty ∧ part.isEmpty then none
    else
      let n : Int := natOf (whole ++ part)
      some (if negative then -n else n, part.length)

def placed (places : Nat) (n : Int) : Chars :=
  (if n < 0 then ['-'] else []) ++ Decimal.pointed places n.natAbs false

def seq : Tool := fun _ args => do
  let isNumber (arg : Chars) : Bool := (decimal? arg).isSome
  let numbers := args.filter isNumber
  withOptions {
    flags := "w"
    valued := "sf"
    long := [("separator", 's'), ("format", 'f'), ("equal-width", 'w')]
    permutes := true } (args.filter fun arg => !isNumber arg) fun g => do
    match g.operands with
    | bad :: _ => misuse (charsOf "invalid floating point argument: " ++ quoted bad)
    | [] =>
      let range? : Option (Chars × Chars × Chars) := match numbers with
        | [last] => some (['1'], ['1'], last)
        | [first, last] => some (first, ['1'], last)
        | [first, step, last] => some (first, step, last)
        | _ => none
      match range? with
      | none =>
        if numbers.isEmpty then misuse (charsOf "missing operand")
        else misuse (charsOf "extra operand " ++ quoted (numbers.getD 3 []))
      | some (first, step, last) =>
        let (a, p) := (decimal? first).getD (0, 0)
        let (d, q) := (decimal? step).getD (0, 0)
        let (b, r) := (decimal? last).getD (0, 0)
        let scale := max p (max q r)
        let a := a * Int.pow 10 (scale - p)
        let d := d * Int.pow 10 (scale - q)
        let b := b * Int.pow 10 (scale - r)
        let places := max p q
        if d = 0 then misuse (charsOf "invalid Zero increment value: " ++ quoted step)
        else
          let count := if 0 < d then if b < a then 0 else ((b - a) / d).toNat + 1
            else if a < b then 0 else ((a - b) / (-d)).toNat + 1
          let shown (k : Nat) : Chars := placed places ((a + d * k) / Int.pow 10 (scale - places))
          let texts := (List.range count).map shown
          let width := (texts.map List.length).foldl max 0
          let texts := match g.value? 'f' with
            | some format => texts.map fun s => (printfText printfStyle format [s]).text
            | none =>
              if g.has 'w' then texts.map fun s =>
                let zeros := List.replicate (width - s.length) '0'
                match s with
                | '-' :: ds => '-' :: zeros ++ ds
                | ds => zeros ++ ds
              else texts
          let separator := (g.value? 's').getD ['\n']
          if !texts.isEmpty then put (separator.intercalate texts ++ ['\n'])

/-- A text again and again. A reader that stops early never sees the end. -/
def yes : Tool := fun _ args => do
  setStatus 0
  let line := (if args.isEmpty then ['y'] else [' '].intercalate args) ++ ['\n']
  put (List.replicate 2000 line).flatten

def succeed : Tool := fun _ _ => setStatus 0

def refuse : Tool := fun _ _ => setStatus 1

def pwd : Tool := fun _ _ => do
  setStatus 0
  match (← world).currentDir with
  | .ok p => putLine (charsOf p.text)
  | .error cause => fail (charsOf ("couldn't find directory entry in '..': " ++ cause.reason))

def fact (line : String) : Tool := fun _ _ => do
  setStatus 0
  putLine (charsOf line)

def uname : Tool := fun _ args =>
  withOptions {
    flags := "asnrvmpio"
    long := [("kernel-name", 's'), ("machine", 'm'), ("all", 'a'), ("nodename", 'n'),
      ("kernel-release", 'r'), ("operating-system", 'o')] } args fun g => do
    let shown : List (Char × String) :=
      [('s', "Linux"), ('n', "localhost"), ('r', "6.1.0"), ('v', "#1"), ('m', "x86_64"),
        ('o', "GNU/Linux")]
    let wanted := if g.options.isEmpty then [('s', "Linux")]
      else shown.filter fun (c, _) => g.has c || g.has 'a'
    putLine ([' '].intercalate (wanted.map fun (_, s) => charsOf s))

def id : Tool := fun _ args =>
  withOptions { flags := "ugGnr" } args fun g => do
    putLine (charsOf (if g.has 'n' then "root" else if g.options.isEmpty then
      "uid=0(root) gid=0(root) groups=0(root)" else "0"))

def sleep : Tool := fun _ args =>
  withOptions { flags := "" } args fun g => do
    if g.operands.isEmpty then misuse (charsOf "missing operand")
    for arg in g.operands do
      let bare := if (arg.getLast?.any fun c => "smhd".toList.contains c) then arg.dropLast else arg
      if (decimal? bare).isNone ∧ bare ≠ charsOf "infinity" then
        misuse (charsOf "invalid time interval " ++ quoted arg)

def tty : Tool := fun _ _ => do
  putLine (charsOf "not a tty")
  setStatus 1

def printenv : Tool := fun _ args =>
  withOptions { flags := "0" } args fun g => do
    let env := (← process).environment
    if g.operands.isEmpty then
      for (name, value) in env do putLine (charsOf (name ++ "=") ++ value)
    for name in g.operands do
      match env.lookup (textOf name) with
      | some value => putLine value
      | none => setStatus 1

def statText (path : Chars) (n : Node) : Chars → Chars
  | '%' :: c :: rest =>
    let shown : Chars := match c, n with
      | 'n', _ => path
      | 's', .file content _ => natText content.length
      | 's', _ => charsOf "4096"
      | 'F', .file content _ => charsOf (if content.isEmpty then "regular empty file" else "regular file")
      | 'F', .folder .. => charsOf "directory"
      | 'F', .link _ => charsOf "symbolic link"
      | 'a', .file _ rights => charsOf (if rights.execute then "755" else "644")
      | 'a', .folder .. => charsOf "755"
      | 'a', .link _ => charsOf "777"
      | '%', _ => ['%']
      | 'U', _ | 'G', _ => charsOf "root"
      | 'u', _ | 'g', _ => ['0']
      | c, _ => if c.isAlpha then ['0'] else ['?']
    shown ++ statText path n rest
  | c :: rest => c :: statText path n rest
  | [] => []

def stat : Tool := fun _ args =>
  withOptions { flags := "Lft", valued := "c", long := [("format", 'c'), ("printf", 'c')] } args
    fun g => do
    if g.operands.isEmpty then misuse (charsOf "missing operand")
    for path in g.operands do
      let w ← world
      match if g.has 'L' then w.node .follow (pathOfChars path) else (ownNode w path).map (·.2) with
      | .ok n => putLine (statText path n ((g.value? 'c').getD (charsOf "%n")))
      | .error cause =>
        fail (charsOf "cannot statx " ++ quoted path ++ charsOf (": " ++ cause.reason))

end CompileFlags.Shell.Tool
