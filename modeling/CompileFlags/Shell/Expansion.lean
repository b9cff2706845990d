import CompileFlags.Shell.Braces
import CompileFlags.Shell.Formula
import CompileFlags.Shell.Glyph
import CompileFlags.Shell.Machine
import CompileFlags.Shell.PathPattern
import CompileFlags.Shell.Quoting

set_option autoImplicit false

/-!
# Expansion of words

A word becomes fields: parameters take their values, scripts in a word their output, and formulas
their results; what came from outside quotes is split, and fields with wildcards become paths. Words
inside a word are expanded by the same rules, one level deeper.
-/

namespace CompileFlags.Shell

open Disk

/-- What lies one level deeper in a run: commands, the glyphs of words, the text of a script, and
programs in a child, which leave a status unless they do not start. -/
structure Calls where
  run : Command → Act Unit
  glyphs : Bool → Word → Act (List Glyph)
  script : Chars → Nat → Act Unit
  start : List Chars → Act (Except IoFault Nat)

/-- What is known of a parameter. -/
inductive Found where
  | missing
  | one (s : Chars)
  | many (joins : Bool) (values : List Chars)

def Found.values : Found → List Chars
  | .missing => []
  | .one s => [s]
  | .many _ values => values

/-- Whether a parameter has no value, or only an empty one where that counts too. -/
def Found.lacks (f : Found) (emptyToo : Bool) : Bool :=
  match f with
  | .missing => true
  | .one s => emptyToo && s.isEmpty
  | .many _ values => values.isEmpty || (emptyToo && values.all List.isEmpty && values.length ≤ 1)

def processNumber : Nat := 4242

def expandText (calls : Calls) (w : Word) : Act Chars := do
  return Glyph.text (← calls.glyphs false w)

namespace Process

def patternStyle (p : Process) : Pattern.Style where
  caret := p.extended
  groups := p.hasSwitch "extglob"

def pathStyle (p : Process) : PathStyle where
  toStyle := p.patternStyle
  hidden := p.hasSwitch "dotglob"
  deep := p.hasSwitch "globstar"
  vanishes := p.hasSwitch "nullglob"

end Process

def expandPattern (calls : Calls) (w : Word) : Act Pattern := do
  return Pattern.ofMarked (← process).patternStyle (Glyph.marked (← calls.glyphs false w))

def formulaFault {α : Type} (text : Chars) (f : Formula.Fault) : Act α := do
  let quoted := charsOf ": \"" ++ text ++ ['"']
  if (← process).extended then
    let text := trimBlanks text
    let say (text reason token : Chars) : Act α :=
      fault (text ++ charsOf ": " ++ reason ++ charsOf " (error token is \"" ++ token ++ ['"', ')']) 1
    match f with
    | .divisionByZero =>
      let behind := (text.reverse.takeWhile fun c => c != '/' && c != '%').reverse
      say text (charsOf "division by 0") (trimBlanks behind)
    | .tooGreat digits => say digits (charsOf "value too great for base") digits
    | .badNumber s => fault (s ++ charsOf ": unbound variable") 1
    | .expecting what left =>
      let reason := match what with
        | "EOF" => "syntax error in expression"
        | "operator" => "syntax error: invalid arithmetic operator"
        | "expression" => "expression expected"
        | "')'" => "missing \x60)'"
        | "':'" => "\x60:' expected for conditional expression"
        | _ => "syntax error: operand expected"
      say text (charsOf reason) (Formula.textFrom true left text)
  else match f with
    | .expecting what _ =>
      let what := match what with
        | "operator" => "EOF"
        | "expression" => "primary"
        | what => what
      fault (charsOf ("arithmetic expression: expecting " ++ what) ++ quoted)
    | .divisionByZero => fault (charsOf "arithmetic expression: division by zero" ++ quoted)
    | .badNumber s | .tooGreat s => fault (charsOf "Illegal number: " ++ s)
where
  trimBlanks (s : Chars) : Chars := s.dropWhile isBlank

def numberOfText (p : Process) : Nat → Chars → Except Formula.Fault Int
  | 0, _ => .ok 0
  | depth + 1, s => do
    let (negative, rest) := match s.dropWhile fun c => isBlank c || c == '\n' with
      | '-' :: rest => (true, rest)
      | '+' :: rest => (false, rest)
      | rest => (false, rest)
    if rest.isEmpty then return 0
    let (n, after) := Formula.numberAt p.extended rest
    if (rest.head?.any Char.isDigit) && (after.all fun c => isBlank c || c == '\n') then
      return if negative then -n else n
    else if p.extended then
      let (n, _) ← ((Formula.parse true s).eval (namedNumber p depth)).run []
      return n
    else throw (.badNumber s)
where
  namedNumber (p : Process) (depth : Nat) (name : String) : Except Formula.Fault Int := do
    let name := charsOf name
    let base := textOf (name.takeWhile (· != '['))
    match name.dropWhile (· != '[') with
    | [] => numberOfText p depth ((p.value? base).getD [])
    | _ :: key =>
      let key := key.dropLast
      match (p.variableNamed? base).map Variable.value with
      | some (.table items) => numberOfText p depth ((items.lookup key).getD [])
      | _ =>
        let items := ((p.variableNamed? base).map itemsOf).getD []
        let n ← numberOfText p depth key
        let size : Nat := (items.map (·.1 + 1)).foldl max 0
        numberOfText p depth ((items.lookup (if n < 0 then size + n else n).toNat).getD [])

def evalFormula (text : Chars) : Act Int := do
  let p ← process
  let result : Except Formula.Fault (Int × List (String × Int)) := do
    let f := Formula.parse p.extended text
    let lookUp (name : String) := do
      if p.extended ∧ p.hasOption 'u' ∧ (p.value? name).isNone ∧ '[' ∉ name.toList then
        throw (.badNumber (charsOf name))
      numberOfText p 32 (if p.extended then charsOf name else (p.value? name).getD [])
    (f.eval lookUp).run []
  match result with
  | .error f => formulaFault text f
  | .ok (n, changes) =>
    for (name, value) in changes.reverse do
      setItemNamed name (intText value)
    return n
where
  setItemNamed (name : String) (s : Chars) : Act Unit := do
    let p ← process
    let base := textOf ((charsOf name).takeWhile (· != '['))
    match (charsOf name).dropWhile (· != '[') with
    | [] => setVariable name s
    | _ :: key =>
      let key := key.dropLast
      match (p.variableNamed? base).map Variable.value with
      | some (.table items) =>
        changeVariable base ({ · with value := .table (setNamed key s items) })
      | _ =>
        let n := (numberOfText p 32 key).toOption.getD 0
        changeVariable base fun v => { v with value := .list (setItem n.toNat s (itemsOf v)) }

def outputOf (calls : Calls) (script : Command) : Act (Chars × Nat) := do
  let position ← newStream (.collected [])
  let status ← inChild (fun p => { p with
    descriptors := withDescriptor 1 (some position) p.descriptors
    traps := []
    nesting := p.nesting + 1 }) (calls.run script)
  return (← collectedText position, status)

def capture (calls : Calls) (script : Command) : Act Chars := do
  let script := match (← process).extended, script with
    | true, .simple line [] [] [.file 0 .read force target] =>
      .simple line [] [[.text (charsOf "cat") true]] [.file 0 .read force target]
    | _, script => script
  let (s, status) ← outputOf calls script
  modifyProcess fun p =>
    { p with outputStatus := some status, status := if p.extended then status else p.status }
  return trimLines (s.filter (· != '\x00'))

def outputFile (calls : Calls) (script : Command) : Act Chars := do
  let (s, _) ← outputOf calls script
  let position ← newStream (.held s)
  let used := (← process).descriptors.map (·.1)
  let fd := ((List.range 64).reverse.find? fun fd => !used.contains fd).getD 63
  setDescriptor fd (some position)
  return charsOf "/dev/fd/" ++ natText fd

def itemPosition (calls : Calls) (items : List (Nat × Chars)) (w : Word) : Act Nat := do
  let n ← evalFormula (← expandText calls w)
  let size : Nat := (items.map (·.1 + 1)).foldl max 0
  return (if n < 0 then size + n else n).toNat

def allItems? (w : Word) : Option Bool :=
  match w.bare? with
  | some ['@'] => some false
  | some ['*'] => some true
  | _ => none

def ownList? (p : Process) (name : String) : Option (List Chars) :=
  if !p.extended then none
  else match name with
    | "PIPESTATUS" => some (p.stageStatuses.map natText)
    | "FUNCNAME" => some (p.callers.map charsOf)
    | "BASH_SOURCE" => some (List.replicate (p.callers.length + 1) p.name)
    | "BASH_VERSINFO" =>
      some ((["5", "2", "15", "1", "release", "x86_64-pc-linux-gnu"]).map charsOf)
    | "DIRSTACK" => some (p.folder :: p.folders)
    | "GROUPS" => some [['0']]
    | _ => none

def shownOptions (p : Process) : Chars :=
  if p.extended then
    "abefhikmnprtuvxBCEHPTcs".toList.filter fun c => p.options.contains c || c == 'h' || c == 'B'
  else p.options

def findParameter (calls : Calls) (name : String) (item : Option Word) : Act Found := do
  let p ← process
  match name, item with
  | "@", _ => return .many false p.args
  | "*", _ => return .many true p.args
  | "#", _ => return .one (natText p.args.length)
  | "?", _ => return .one (natText p.status)
  | "$", _ => return .one (natText p.number)
  | "-", _ => return .one (shownOptions p)
  | "!", _ => return (p.jobs.head?).elim .missing fun job => .one (natText job.1)
  | name, item =>
    match nat? name.toList with
    | some 0 => return .one p.name
    | some (n + 1) => return (p.args[n]?).elim .missing .one
    | none =>
      if name = "LINENO" ∧ p.extended then return .one (natText p.line)
      let own := ownList? p name
      match item, (p.variableNamed? name).map (·.value) with
      | none, _ =>
        match own with
        | some values => return values.head?.elim .missing .one
        | none => return (p.value? name).elim .missing .one
      | some w, some (.table items) =>
        match allItems? w with
        | some joins => return .many joins ((tableOrder items).map (·.2))
        | none => return (items.lookup (← expandText calls w)).elim .missing .one
      | some w, _ =>
        let items := match own with
          | some values => (List.range values.length).zip values
          | none => ((p.variableNamed? name).map itemsOf).getD []
        match allItems? w with
        | some joins => return .many joins (items.map (·.2))
        | none => return (items.lookup (← itemPosition calls items w)).elim .missing .one

def foundGlyphs (quoted : Bool) (f : Found) : Act (List Glyph) := do
  match f with
  | .missing => return if quoted then [.empty] else []
  | .one s => return Glyph.ofValue quoted s
  | .many joins values =>
    if joins ∧ quoted then
      let separator := ((← process).separators).take 1
      return Glyph.ofValue true (separator.intercalate values)
    else return Glyph.ofValues quoted values

def Found.map (f : Found) (change : Chars → Chars) : Found :=
  match f with
  | .missing => .missing
  | .one s => .one (change s)
  | .many joins values => .many joins (values.map change)

def unsetFault {α : Type} (name : String) : Act α := do
  if (← process).extended then fault (charsOf (name ++ ": unbound variable")) 1
  else fault (charsOf (name ++ ": parameter not set"))

def setParameter (calls : Calls) (name : String) (item : Option Word) (s : Chars) : Act Unit := do
  match item with
  | none => setVariable name s
  | some w =>
    let v := ((← process).variableNamed? name).getD {}
    match v.value with
    | .table _ =>
      let key ← expandText calls w
      changeVariable name fun v => match v.value with
        | .table items => { v with value := .table (setNamed key s items) }
        | _ => v
    | _ =>
      let position ← itemPosition calls (itemsOf v) w
      changeVariable name fun v => { v with value := .list (setItem position s (itemsOf v)) }

/-- The items of a text or a list from a start, so many of them. A negative start counts from the
end, and a negative length leaves out the end. -/
def sliceOf {α : Type} (start : Int) (length : Option Int) (xs : List α) : List α :=
  let size : Int := xs.length
  let start := if start < 0 then start + size else start
  if start < 0 ∨ size < start then []
  else
    let rest := xs.drop start.toNat
    match length with
    | none => rest
    | some n => rest.take (if n < 0 then (size + n - start).toNat else n.toNat)

def slice (calls : Calls) (name : String) (start : Word) (length : Option Word) (f : Found) :
    Act Found := do
  let start ← evalFormula (← expandText calls start)
  let length ← length.mapM fun w => do evalFormula (← expandText calls w)
  match f with
  | .missing => return .missing
  | .one s => return .one (sliceOf start length s)
  | .many joins values =>
    if name = "@" ∨ name = "*" then
      let values := (← process).name :: values
      return .many joins (sliceOf start length values)
    else return .many joins (sliceOf start length values)

def replaceMatches (which : Matches) (p : Pattern) (new s : Chars) : Chars :=
  match which with
  | .first => p.replaceIn new false (s.length + 1) s
  | .all => p.replaceIn new true (s.length + 1) s
  | .atStart =>
    match p.longestStart? s with
    | some n => new ++ s.drop n
    | none => s
  | .atEnd =>
    let kept := p.cutEnd true s
    if kept.length = s.length ∧ !p.isMatch [] then s else kept ++ new

def recased (upper all : Bool) (s : Chars) : Chars :=
  let change := if upper then Char.toUpper else Char.toLower
  if all then s.map change
  else match s with
    | c :: rest => change c :: rest
    | [] => []

def operatorText? (letter : Char) (s : Chars) : Option Chars :=
  match letter with
  | 'Q' => some (requotedText s)
  | 'U' => some (recased true true s)
  | 'L' => some (recased false true s)
  | 'u' => some (recased true false s)
  | _ => none

def parameterIn (s : Chars) : String × Option Word :=
  let name := s.takeWhile (· != '[')
  match s.drop name.length with
  | '[' :: rest => (textOf name, some [.text rest.dropLast false])
  | _ => (textOf name, none)

def parameterGlyphs (calls : Calls) (name : String) (item : Option Word) (quoted : Bool)
    (use : ParameterUse) : Act (List Glyph) := do
  let found ← findParameter calls name item
  let p ← process
  let demanded : Act Unit := do
    match found with
    | .missing => if p.hasOption 'u' ∧ name ≠ "!" then unsetFault name
    | _ => pure ()
  let wordGlyphs (w : Word) : Act (List Glyph) := do
    let gs ← calls.glyphs (!quoted) w
    return if quoted then .empty :: gs else gs
  match use with
  | .value =>
    demanded
    foundGlyphs quoted found
  | .length =>
    demanded
    match found with
    | .many _ values =>
      if p.extended then return Glyph.ofValue quoted (natText values.length)
      else return Glyph.ofValue quoted (natText ([' '].intercalate values).length)
    | f => return Glyph.ofValue quoted (natText (f.values.flatten).length)
  | .fallback kind emptyToo w =>
    let lacks := found.lacks emptyToo
    match kind with
    | .default => if lacks then wordGlyphs w else foundGlyphs quoted found
    | .alternative =>
      if lacks then return if quoted then [.empty] else [] else wordGlyphs w
    | .assign =>
      if lacks then
        let s := Glyph.text (← calls.glyphs false w)
        if !isName name.toList then
          if p.extended then fault (charsOf ("$" ++ name ++ ": cannot assign in this way")) 1
          else fault (charsOf (name ++ ": bad variable name"))
        setParameter calls name item s
        return Glyph.ofValue quoted s
      else foundGlyphs quoted found
    | .demand =>
      if lacks then
        let s := Glyph.text (← calls.glyphs false w)
        let silent := if !emptyToo then "parameter not set"
          else if p.extended then "parameter null or not set"
          else "parameter not set or null"
        let reason := if w.isEmpty then charsOf silent else s
        fault (charsOf (name ++ ": ") ++ reason) (if p.extended then 1 else 2)
      else foundGlyphs quoted found
  | .cutStart longest w =>
    demanded
    let pattern ← expandPattern calls w
    foundGlyphs quoted (found.map (pattern.cutStart longest))
  | .cutEnd longest w =>
    demanded
    let pattern ← expandPattern calls w
    foundGlyphs quoted (found.map (pattern.cutEnd longest))
  | .slice start length =>
    demanded
    foundGlyphs quoted (← slice calls name start length found)
  | .replace which pattern new =>
    demanded
    let pattern ← expandPattern calls pattern
    let new ← expandText calls new
    foundGlyphs quoted (found.map (replaceMatches which pattern new))
  | .recase upper all => foundGlyphs quoted (found.map (recased upper all))
  | .indirect =>
    match found with
    | .one other =>
      let (name, item) := parameterIn other
      foundGlyphs quoted (← findParameter calls name item)
    | _ => return []
  | .keys =>
    let joins := (item.bind allItems?).getD false
    match (p.variableNamed? name).map Variable.value with
    | some (.table items) =>
      foundGlyphs quoted (.many joins ((tableOrder items).map (·.1)))
    | _ =>
      let items := ((p.variableNamed? name).map itemsOf).getD []
      foundGlyphs quoted (.many joins (items.map fun i => natText i.1))
  | .names =>
    let names := (p.vars.map (·.1)).filter (·.startsWith name)
    foundGlyphs quoted (.many false ((names.mergeSort).map charsOf))
  | .operator letter =>
    demanded
    match operatorText? letter [] with
    | none => fault (charsOf ("$\x7b" ++ name ++ "@" ++ letter.toString ++ "\x7d: bad substitution")) 1
    | some _ => foundGlyphs quoted (found.map fun s => (operatorText? letter s).getD [])
  | .invalid =>
    if p.extended then fault (charsOf ("$\x7b" ++ name ++ "\x7d: bad substitution")) 1
    else fault (charsOf "Bad substitution")

/-- The glyphs of a part of a word. Literal text outside quotes separates fields only inside the
braces of a parameter. -/
def partGlyphs (calls : Calls) (splits : Bool) : WordPart → Act (List Glyph)
  | .text s quoted =>
    return if quoted then .empty :: Glyph.ofText true false s else Glyph.ofText false splits s
  | .parameter name item use quoted => parameterGlyphs calls name item quoted use
  | .output script quoted => do
    return Glyph.ofValue quoted (← capture calls script)
  | .sum w quoted => do
    return Glyph.ofValue quoted (intText (← evalFormula (← expandText calls w)))
  | .file script => do
    return Glyph.ofText true false (← outputFile calls script)

def userFolders : List (String × String) :=
  [("root", "/root"), ("daemon", "/usr/sbin"), ("bin", "/bin"), ("sys", "/dev"), ("sync", "/bin"),
    ("games", "/usr/games"), ("man", "/var/cache/man"), ("lp", "/var/spool/lpd"),
    ("mail", "/var/mail"), ("news", "/var/spool/news"), ("uucp", "/var/spool/uucp"),
    ("proxy", "/bin"), ("www-data", "/var/www"), ("backup", "/var/backups"), ("list", "/var/list"),
    ("irc", "/run/ircd"), ("nobody", "/nonexistent")]

/-- The folder that a tilde with some text behind it stands for: that of a user or, in the extended
shell, the working folder or the one before. -/
def tildeFolder? (p : Process) (user : Chars) : Option Chars :=
  if user.isEmpty then p.value? "HOME"
  else if p.extended ∧ user = ['+'] then p.value? "PWD"
  else if p.extended ∧ user = ['-'] then p.value? "OLDPWD"
  else (userFolders.lookup (textOf user)).map charsOf

def withHome (p : Process) (w : Word) : Word :=
  match w with
  | .text ('~' :: s) false :: rest =>
    let user := s.takeWhile (· != '/')
    let behind := s.drop user.length
    if behind.isEmpty ∧ !rest.isEmpty then w
    else match tildeFolder? p user with
      | some dir => .text dir true :: .text behind false :: rest
      | none => w
  | w => w

def betweenColons : Word → List Word
  | [] => [[]]
  | .text s false :: rest =>
    let pieces := (Text.splitOn ':' s).map fun s => if s.isEmpty then [] else [.text s false]
    let later := betweenColons rest
    pieces.dropLast ++ (pieces.getLast?.getD [] ++ later.headD []) :: later.drop 1
  | part :: rest =>
    let later := betweenColons rest
    (part :: later.headD []) :: later.drop 1

def withHomes (p : Process) (w : Word) : Word :=
  [WordPart.text [':'] false].intercalate ((betweenColons w).map (withHome p))

def wordGlyphs (calls : Calls) (splits : Bool) (w : Word) : Act (List Glyph) := do
  let mut found := #[]
  for part in withHome (← process) w do
    found := found ++ (← partGlyphs calls splits part)
  return found.toList

def expandFields (calls : Calls) (w : Word) : Act (List Chars) := do
  let words := if (← process).extended then Braces.expand w else [w]
  let mut found := #[]
  for w in words do
    let gs ← calls.glyphs false w
    let p ← process
    for field in Glyph.fields p.separators gs do
      if p.hasOption 'f' then found := found.push (field.map (·.1))
      else found := found ++ PathPattern.expand (← world) p.pathStyle field
  return found.toList

def expandAll (calls : Calls) (ws : List Word) : Act (List Chars) := do
  let mut found := #[]
  for w in ws do
    found := found ++ (← expandFields calls w)
  return found.toList

end CompileFlags.Shell
