import CompileFlags.Shell.Tool.Basic

set_option autoImplicit false

namespace CompileFlags.Shell.Tool

open Disk

def pathOfChars (s : Chars) : Path := ⟨textOf s⟩

def inside (dir name : Chars) : Chars :=
  if dir.getLast? = some '/' then dir ++ name else dir ++ '/' :: name

def isFolder (path : Chars) : Act Bool := do
  return (← world).isFolder (pathOfChars path)

def change (context : Chars) (f : World → Except IoFault World) : Act Unit := do
  match f (← world) with
  | .ok w => setWorld w
  | .error cause => fail (context ++ charsOf (": " ++ cause.reason))

def makeFolder (path : Chars) (w : World) : Except IoFault World := do
  let place ← w.place .create (pathOfChars (unslashed path))
  match w.tree.at? place with
  | some _ => throw .exists_
  | none => w.changeEntry place (·.setNode place (.folder [] .all))

def mkdir : Tool := fun _ args =>
  withOptions {
    flags := "pv"
    valued := "m"
    long := [("parents", 'p'), ("verbose", 'v'), ("mode", 'm')] } args fun g => do
    if g.operands.isEmpty then misuse (charsOf "missing operand")
    for path in g.operands do
      let context := charsOf "cannot create directory " ++ quoted path
      change context fun w =>
        if g.has 'p' then w.makeFolders (pathOfChars (unslashed path)) else makeFolder path w

def ownNode (w : World) (path : Chars) : Except IoFault (Place × Node) := do
  let place ← w.place .keep (pathOfChars path)
  match w.tree.at? place with
  | some n => return (place, n)
  | none => throw .notFound

def rmdir : Tool := fun _ args =>
  withOptions { flags := "pv", long := [("parents", 'p')] } args fun g => do
    if g.operands.isEmpty then misuse (charsOf "missing operand")
    for path in g.operands do
      let remove (path : Chars) : Act Unit :=
        change (charsOf "failed to remove " ++ quoted path) fun w => do
          match ← ownNode w (unslashed path) with
          | (_, .folder [] _) => w.remove (pathOfChars (unslashed path))
          | (_, .folder ..) => throw .notEmpty
          | _ => throw .notDirectory
      remove path
      if g.has 'p' then
        for parent in ((pathOfChars path).ancestors.drop 1).filter (!·.isEmpty) do
          remove (charsOf parent.text)

def rm : Tool := fun _ args =>
  withOptions {
    flags := "rRfvdiI"
    long := [("recursive", 'r'), ("force", 'f'), ("verbose", 'v'), ("dir", 'd')] } args fun g => do
    let forced := g.has 'f'
    let recursive := g.has 'r' || g.has 'R'
    if g.operands.isEmpty ∧ !forced then misuse (charsOf "missing operand")
    for path in g.operands do
      let context := charsOf "cannot remove " ++ quoted path
      let w ← world
      if recursive ∧ [['.'], ['.', '.']].contains (lastName path) then
        fail (charsOf "refusing to remove '.' or '..' directory: skipping " ++ quoted path)
      else match ownNode w path with
        | .error cause =>
          if !(forced && (cause = .notFound || cause = .notDirectory)) then
            fail (context ++ charsOf (": " ++ cause.reason))
        | .ok (_, n) =>
          let isBlocked := match n with
            | .folder entries _ => !recursive && !(g.has 'd' && entries.isEmpty)
            | _ => false
          if isBlocked then fail (context ++ charsOf ": Is a directory")
          else
            change context (·.remove (pathOfChars path))
            if g.has 'v' then
              putLine (charsOf (if n.isFolder then "removed directory " else "removed ") ++ quoted path)

/-- Where a copy, a move or a link goes: into the last operand if that is a folder, onto it
otherwise. -/
def destination (whole : Bool) (source target : Chars) : Act Chars := do
  if !whole ∧ (← isFolder target) then return inside target (lastName source) else return target

def transfers (g : Given) (act : Chars → Chars → Act Unit) : Act Unit := do
  let whole := g.has 'T'
  match g.value? 't', g.operands.reverse with
  | some dir, sources => for source in sources.reverse do act source (inside dir (lastName source))
  | none, [] => misuse (charsOf "missing file operand")
  | none, [only] => misuse (charsOf "missing destination file operand after " ++ quoted only)
  | none, target :: sources =>
    let named ← isFolder target
    if sources.length > 1 ∧ !named then
      if (← world).hasPath (pathOfChars target) then
        fail (charsOf "target " ++ quoted target ++ charsOf ": Not a directory")
      else fail (charsOf "target " ++ quoted target ++ charsOf ": No such file or directory")
    else for source in sources.reverse do act source (← destination whole source target)

/-- Put a node at a path: a folder onto a folder adds to it, a file keeps the mode that is there. -/
def putNode (w : World) (path : Chars) (n : Node) : Except IoFault World := do
  let ending : Ending := match n with
    | .link _ => .keep
    | _ => .create
  let place ← match w.place ending (pathOfChars (unslashed path)) with
    | .ok place => .ok place
    | .error _ => w.place .create (pathOfChars (unslashed path))
  match w.tree.at? place, n with
  | some (.folder old rights), .folder new _ =>
    return w.setNode place
      (.folder (new.foldl (fun es (name, m) => setEntry name m es) old) rights)
  | some (.folder ..), _ => throw .isDirectory
  | some (.file _ rights), .file content _ => return w.setNode place (.file content rights)
  | _, n => return w.setNode place n

def cp : Tool := fun _ args =>
  withOptions {
    flags := "rRafpvndLPHTiul"
    valued := "tS"
    long := [("recursive", 'r'), ("archive", 'a'), ("force", 'f'), ("verbose", 'v'),
      ("no-clobber", 'n'), ("target-directory", 't'), ("preserve", 'p')] } args fun g =>
    transfers g fun source target => do
      let w ← world
      let recursive := g.has 'r' ∨ g.has 'R' ∨ g.has 'a'
      let keepsLinks := (recursive ∨ g.has 'd' ∨ g.has 'P') ∧ !g.has 'L'
      let found := (if keepsLinks then (ownNode w source).map (·.2)
        else w.node .follow (pathOfChars source))
      match found with
      | .error cause =>
        fail (charsOf "cannot stat " ++ quoted source ++ charsOf (": " ++ cause.reason))
      | .ok n =>
        let same := match w.place .follow (pathOfChars source), w.place .follow (pathOfChars target) with
          | .ok a, .ok b => a == b
          | _, _ => false
        if n.isFolder ∧ !recursive then
          fail (charsOf "-r not specified; omitting directory " ++ quoted source)
        else if same then
          fail (quoted source ++ charsOf " and " ++ quoted target ++
            charsOf " are the same file")
        else if g.has 'n' ∧ w.hasPath (pathOfChars target) then pure ()
        else
          let kind := if n.isFolder then "directory " else if n.isFile then "regular file "
            else "symbolic link "
          change (charsOf ("cannot create " ++ kind) ++ quoted target) (putNode · target n)
          if g.has 'v' then putLine (quoted source ++ charsOf " -> " ++ quoted target)

def mv : Tool := fun _ args =>
  withOptions {
    flags := "fvniTu"
    valued := "tS"
    long := [("force", 'f'), ("verbose", 'v'), ("no-clobber", 'n'), ("target-directory", 't')] }
    args fun g =>
    transfers g fun source target => do
      let w ← world
      match ownNode w source with
      | .error cause =>
        fail (charsOf "cannot stat " ++ quoted source ++ charsOf (": " ++ cause.reason))
      | .ok (place, n) =>
        let samePlace := match w.place .keep (pathOfChars target) with
          | .ok other => other == place
          | .error _ => false
        if samePlace then
          fail (quoted source ++ charsOf " and " ++ quoted target ++
            charsOf " are the same file")
        else if g.has 'n' ∧ w.hasPath (pathOfChars target) then pure ()
        else
          let context := charsOf "cannot move " ++ quoted source ++ charsOf " to " ++ quoted target
          change context fun w => do
            let into ← match w.place .keep (pathOfChars (unslashed target)) with
              | .ok place => .ok place
              | .error _ => w.place .create (pathOfChars (unslashed target))
            match w.tree.at? into with
            | some (.folder (_ :: _) _) => throw .notEmpty
            | _ => pure ()
            let w := { w with tree := w.tree.remove place }
            return w.setNode into n
          if g.has 'v' then
            putLine (charsOf "renamed " ++ quoted source ++ charsOf " -> " ++ quoted target)

def ln : Tool := fun _ args =>
  withOptions {
    flags := "sfnvTrLPi"
    valued := "tS"
    long := [("symbolic", 's'), ("force", 'f'), ("no-dereference", 'n'), ("verbose", 'v')] } args
    fun g => do
    let make (source target : Chars) : Act Unit := do
      let kind := if g.has 's' then "symbolic" else "hard"
      let context := charsOf ("failed to create " ++ kind ++ " link ") ++ quoted target
      let w ← world
      let w := if g.has 'f' then match w.remove (pathOfChars target) with
          | .ok w => w
          | .error _ => w
        else w
      if g.has 's' then
        change context fun _ => w.makeLink (pathOfChars target) (pathOfChars source)
      else match ownNode w source with
        | .error cause =>
          fail (charsOf "failed to access " ++ quoted source ++ charsOf (": " ++ cause.reason))
        | .ok (_, n) =>
          if n.isFolder then
            fail (quoted source ++ charsOf ": hard link not allowed for directory")
          else
            change context fun _ => do
              match ownNode w target with
              | .ok _ => throw .exists_
              | .error _ => putNode w target n
    match g.operands with
    | [only] => make only (lastName only)
    | _ =>
      if g.has 'n' ∨ g.has 'T' then
        match g.operands with
        | [source, target] =>
          let w ← world
          if Test.isLink w (pathOfChars target) ∨ g.has 'T' then make source target
          else make source (← destination false source target)
        | _ => transfers g make
      else transfers g make

def touch : Tool := fun _ args =>
  withOptions {
    flags := "cam"
    valued := "drt"
    long := [("no-create", 'c'), ("date", 'd'), ("reference", 'r')] } args fun g => do
    if g.operands.isEmpty then misuse (charsOf "missing file operand")
    for path in g.operands do
      let w ← world
      if !w.hasPath (pathOfChars path) ∧ !g.has 'c' then
        change (charsOf "cannot touch " ++ quoted path) fun w => do
          return (← writablePlace w (pathOfChars path)).1

/-- Whether a mode makes a file executable that was or was not. `none` is no mode at all. -/
def modeOf? (was : Bool) (mode : Chars) : Option Bool :=
  if mode.all isOctalDigit ∧ !mode.isEmpty then some (octalValue mode &&& 0o111 != 0)
  else (Text.splitOn ',' mode).foldlM (fun was clause =>
    let rest := clause.dropWhile fun c => "ugoa".toList.contains c
    match rest with
    | op :: letters =>
      if !"+-=".toList.contains op ∨ !(letters.all fun c => "rwxXst".toList.contains c) then none
      else
        let x := letters.contains 'x'
        some (if op = '+' then was || x else if op = '-' then was && !x else x)
    | [] => none) was

/-- The rights that a mode leaves; those to read and to write are not taken away. -/
def changedRights (mode : Chars) (rights : Rights) : Rights :=
  { rights with execute := (modeOf? rights.execute mode).getD rights.execute }

def withMode (mode : Chars) : Node → Node
  | .file content rights => .file content (changedRights mode rights)
  | n => n

mutual

def deepMode (mode : Chars) : Node → Node
  | .folder entries rights => .folder (deepModes mode entries) rights
  | .file content rights => .file content (changedRights mode rights)
  | .link target => .link target

def deepModes (mode : Chars) : List (String × Node) → List (String × Node)
  | [] => []
  | (name, n) :: rest => (name, deepMode mode n) :: deepModes mode rest

end

def chmod : Tool := fun _ args =>
  let isMode (arg : Chars) : Bool := arg.head? = some '-' && arg.length > 1 &&
    (arg.drop 1).all fun c => "rwxXst".toList.contains c
  let modes := args.filter isMode
  withOptions {
    flags := "Rfvc"
    long := [("recursive", 'R'), ("verbose", 'v'), ("silent", 'f'), ("quiet", 'f')] }
    (args.filter fun arg => !isMode arg) fun g => do
    match modes ++ g.operands with
    | [] => misuse (charsOf "missing operand")
    | [mode] => misuse (charsOf "missing operand after " ++ quoted mode)
    | mode :: files =>
      if (modeOf? false mode).isNone then
        misuse (charsOf "invalid mode: " ++ quoted mode)
      else
        for path in files do
          let w ← world
          match w.place .follow (pathOfChars path) with
          | .error cause =>
            fail (charsOf "cannot access " ++ quoted path ++ charsOf (": " ++ cause.reason))
          | .ok place =>
            match w.tree.at? place with
            | some n => setWorld (w.setNode place (if g.has 'R' then deepMode mode n else withMode mode n))
            | none => pure ()

/-- The true path of a path: `e` for one that is there, `f` where the last name may be missing, and
`m` for any. -/
def truePath (w : World) (demand : Char) (path : Chars) : Except IoFault Chars := do
  let p := pathOfChars path
  match w.place .follow p with
  | .ok place =>
    if (w.tree.at? place).isSome then return charsOf (pathOf place).text else throw .notFound
  | .error cause =>
    if demand = 'm' then return charsOf (w.absolute p).text
    else if demand = 'f' then
      return charsOf (pathOf (← w.place .create (pathOfChars (unslashed path)))).text
    else throw cause

def readlink : Tool := fun _ args =>
  withOptions {
    flags := "efmnqsvz"
    long := [("canonicalize", 'f'), ("canonicalize-existing", 'e'), ("canonicalize-missing", 'm'),
      ("no-newline", 'n')] } args fun g => do
    if g.operands.isEmpty then misuse (charsOf "missing operand")
    for path in g.operands do
      let w ← world
      let feed : Chars := if g.has 'n' then [] else ['\n']
      match g.last? "efm" with
      | some demand =>
        match truePath w demand path with
        | .ok found => put (found ++ feed)
        | .error _ => setStatus 1
      | none =>
        match ownNode w path with
        | .ok (_, .link target) => put (charsOf target.text ++ feed)
        | _ => setStatus 1

def realpath : Tool := fun _ args =>
  withOptions {
    flags := "emqsLPz"
    long := [("canonicalize-existing", 'e'), ("canonicalize-missing", 'm'), ("no-symlinks", 's')] }
    args fun g => do
    if g.operands.isEmpty then misuse (charsOf "missing operand")
    for path in g.operands do
      let w ← world
      if g.has 's' then putLine (charsOf (w.absolute (pathOfChars path)).text)
      else match truePath w ((g.last? "em").getD 'f') path with
        | .ok found => putLine found
        | .error cause => fail (path ++ charsOf (": " ++ cause.reason))

def mktemp : Tool := fun _ args =>
  withOptions {
    flags := "duqt"
    valued := "p"
    long := [("directory", 'd'), ("dry-run", 'u'), ("tmpdir", 'p')] } args fun g => do
    let serial := (← get).serial
    modify fun m => { m with serial := serial + 1 }
    let template := g.operands.head?.getD (charsOf "tmp.XXXXXXXXXX")
    let kept := (template.reverse.dropWhile (· == 'X')).reverse
    let width := template.length - kept.length
    let digits := natText serial
    let name := kept ++ List.replicate (width - digits.length) 'x' ++ digits
    let dir := if g.operands.isEmpty ∨ g.has 't' ∨ g.has 'p' then
        some ((g.value? 'p').getD (charsOf "/tmp"))
      else none
    let path := dir.elim name fun dir => inside dir name
    if !g.has 'u' then
      let kind := if g.has 'd' then "directory" else "file"
      change (charsOf ("failed to create " ++ kind ++ " via template ") ++
        quoted (dir.elim template fun dir => inside dir template)) fun w =>
          if g.has 'd' then makeFolder path w
          else do return (← writablePlace w (pathOfChars path)).1
    if (← status) = 0 then putLine path

def shownNames (g : Given) (entries : List (String × Node)) : List (Chars × Node) :=
  let all := (entries.map fun (name, n) => (charsOf name, n)).filter fun (name, _) =>
    g.has 'a' || g.has 'A' || name.head? != some '.'
  let dots := if g.has 'a' then [(['.'], Node.folder [] .all), (['.', '.'], Node.folder [] .all)] else []
  let sorted := (dots ++ all).mergeSort fun a b => PathPattern.byBytes a.1 b.1
  if g.has 'r' then sorted.reverse else sorted

def markedName (g : Given) (name : Chars) (n : Node) : Chars :=
  let mark : Chars := match n with
    | .folder .. => if g.has 'F' ∨ g.has 'p' then ['/'] else []
    | .file _ rights => if g.has 'F' ∧ rights.execute then ['*'] else []
    | .link _ => if g.has 'F' then ['@'] else []
  name ++ mark

/-- The folders to list with their titles, one behind the other; the depth bounds the way down. -/
def listings (g : Given) : Nat → Chars → Node → List (Chars × Node)
  | 0, path, n => [(path, n)]
  | depth + 1, path, n =>
    (path, n) :: if g.has 'R' then
      (shownNames g n.entries).flatMap fun (name, m) =>
        if m.isFolder ∧ name ≠ ['.'] ∧ name ≠ ['.', '.'] then listings g depth (inside path name) m
        else []
    else []

def longColumns (n : Node) : List Chars :=
  let mode := match n with
    | .folder .. => "drwxr-xr-x"
    | .link _ => "lrwxrwxrwx"
    | .file _ rights => if rights.execute then "-rwxr-xr-x" else "-rw-r--r--"
  let links := match n with
    | .folder entries _ => 2 + entries.countP fun (_, m) => m.isFolder
    | _ => 1
  let size := match n with
    | .folder .. => 4096
    | .link target => target.text.utf8ByteSize
    | .file content _ => content.length
  [charsOf mode, natText links, charsOf "root", charsOf "root", natText size,
    charsOf "Jan  1 00:00"]

def blocks : Node → Nat
  | .folder .. => 4
  | .link _ => 0
  | .file content _ => (content.length + 4095) / 4096 * 4

def aligned (rows : List (List Chars)) : List Chars :=
  let width (i : Nat) : Nat := (rows.map fun row => (row.getD i []).length).foldl max 0
  rows.map fun row =>
    [' '].intercalate ((List.range row.length).map fun i =>
      let cell := row.getD i []
      let pad := List.replicate (width i - cell.length) ' '
      if i = 1 ∨ i = 4 then pad ++ cell else cell ++ pad)

def listed (g : Given) (entries : List (Chars × Node)) : List Chars :=
  if g.has 'l' ∨ g.has 'n' ∨ g.has 'g' ∨ g.has 'o' then
    let columns := aligned (entries.map fun (_, n) => longColumns n)
    (columns.zip entries).map fun (cells, name, n) =>
      let target := match n with
        | .link target => charsOf (" -> " ++ target.text)
        | _ => []
      cells ++ [' '] ++ markedName g name n ++ target
  else entries.map fun (name, n) => markedName g name n

def ls : Tool := fun _ args =>
  withOptions {
    flags := "1aAdlFprtRSUnghikLmqsuvxXCBDGHNQZc"
    valued := "IwT"
    long := [("all", 'a'), ("almost-all", 'A'), ("directory", 'd'), ("recursive", 'R'),
      ("reverse", 'r'), ("classify", 'F'), ("color", 'Z')] } args (fun g => do
    let operands := if g.operands.isEmpty then [['.']] else
      g.operands.mergeSort PathPattern.byBytes
    let mut files := #[]
    let mut folders := #[]
    for path in operands do
      let w ← world
      let isLost : Bool := w.cwd.isNone && path == ['.']
      let found : Except IoFault Node :=
        if isLost then .ok (.folder [] .all) else w.node .follow (pathOfChars path)
      match found, ownNode w path with
      | .ok n, own =>
        let isLink := match own with
          | .ok (_, .link _) => g.has 'l' ∧ path.getLast? ≠ some '/'
          | _ => false
        if n.isFolder ∧ !g.has 'd' ∧ !isLink then folders := folders.push (path, n)
        else files := files.push (path, (own.toOption.elim n (·.2)))
      | .error _, .ok (_, n) => files := files.push (path, n)
      | .error _, .error cause =>
        fail (charsOf "cannot access " ++ quoted path ++ charsOf (": " ++ cause.reason)) 2
    for line in listed g files.toList do putLine line
    let all := folders.toList.flatMap fun (path, n) => listings g 64 path n
    let titled := operands.length > 1 ∨ g.has 'R'
    let mut first := files.isEmpty
    for (path, n) in all do
      if titled then put ((if first then [] else ['\n']) ++ path ++ [':', '\n'])
      first := false
      let entries := shownNames g n.entries
      if g.has 'l' then
        putLine (charsOf "total " ++ natText ((entries.map fun (_, m) => blocks m).foldl (· + ·) 0))
      for line in listed g entries do putLine line) 2

def cmp : Tool := fun _ args =>
  withOptions { flags := "slb", long := [("silent", 's'), ("quiet", 's')] } args (fun g => do
    match g.operands with
    | [a, b] =>
      match ← readInput a, ← readInput b with
      | .ok x, .ok y =>
        if x ≠ y then
          let common := ((x.zip y).takeWhile fun p => p.1 == p.2).length
          if !g.has 's' then
            if common = x.length ∨ common = y.length then
              let shorter := if common = x.length then a else b
              say (charsOf "EOF on " ++ shorter ++ charsOf " after byte " ++ natText common ++
                charsOf ", in line " ++ natText ((x.take common).count '\n' + 1))
            else
              putLine (a ++ ' ' :: b ++ charsOf " differ: char " ++ natText (common + 1) ++
                charsOf ", line " ++ natText ((x.take common).count '\n' + 1))
          setStatus 1
      | .error cause, _ => fail (a ++ charsOf (": " ++ cause.reason)) 2
      | _, .error cause => fail (b ++ charsOf (": " ++ cause.reason)) 2
    | _ => misuse (charsOf "missing operand after 'cmp'") 2) 2

end CompileFlags.Shell.Tool
