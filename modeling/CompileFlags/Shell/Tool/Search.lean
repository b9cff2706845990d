import CompileFlags.Shell.Regex
import CompileFlags.Shell.Tool.Basic

set_option autoImplicit false

namespace CompileFlags.Shell.Tool

/-- How lines are searched. -/
structure Search where
  expressions : List Regex
  ignoreCase : Bool
  inverted : Bool
  wholeWords : Bool
  wholeLines : Bool

namespace Search

def framed (s : Search) (r : Regex) : Regex :=
  if s.wholeLines then .both .start (.both r .stop) else r

def subject (s : Search) (line : Chars) : Regex.Subject where
  text := line.toArray
  ignoreCase := s.ignoreCase

def isWhole (s : Search) (subject : Regex.Subject) (first last : Nat) : Bool :=
  !s.wholeWords || (!subject.wordBefore first && !subject.wordAt last)

def next? (s : Search) (subject : Regex.Subject) (from_ : Nat) : Option (Nat × Nat) :=
  (List.range (subject.text.size + 1 - from_)).findSome? fun k =>
    let position := from_ + k
    let ends := s.expressions.flatMap fun r =>
      ((s.framed r).spots subject ⟨position, []⟩).map (·.position)
    let ends := ends.filter fun last => s.isWhole subject position last
    if ends.isEmpty then none else some (position, ends.foldl max 0)

def selects (s : Search) (line : Chars) : Bool :=
  (s.next? (s.subject line) 0).isSome != s.inverted

def matchesFrom (s : Search) (subject : Regex.Subject) : Nat → Nat → List Chars
  | 0, _ => []
  | n + 1, from_ =>
    match s.next? subject from_ with
    | none => []
    | some (first, last) =>
      let rest := matchesFrom s subject n (max last (first + 1))
      if first < last then (subject.text.extract first last).toList :: rest else rest

end Search

def fixedRegex (s : Chars) : Regex := Regex.literal s

def shownNumbers (hits : List Nat) (before after count : Nat) : List Nat :=
  (List.range count).filter fun n =>
    hits.any fun hit => decide (hit ≤ n + before) && decide (n ≤ hit + after)

/-- What `grep` shows of a line. -/
structure SearchStyle where
  name : Option Chars
  numbers : Bool
  onlyMatches : Bool

def SearchStyle.line (style : SearchStyle) (n : Nat) (hit : Bool) (text : Chars) : Chars :=
  let mark : Chars := if hit then [':'] else ['-']
  let name := match style.name with
    | some name => name ++ mark
    | none => []
  let number := if style.numbers then natText (n + 1) ++ mark else []
  name ++ number ++ text ++ ['\n']

def expressionsOf (fixed extended : Bool) (patterns : List Chars) : Option (List Regex) :=
  (patterns.flatMap (Text.splitOn '\n')).mapM fun s =>
    if fixed then some (fixedRegex s) else Regex.parse? extended s

def filesBelow (w : Disk.World) : Nat → Chars → List Chars
  | 0, _ => []
  | n + 1, path =>
    match w.node .keep ⟨textOf path⟩ with
    | .ok (.folder entries _) =>
      ((entries.map fun e => charsOf e.1).mergeSort PathPattern.byBytes).flatMap fun name =>
        filesBelow w n (path ++ '/' :: name)
    | .ok (.file ..) => [path]
    | _ => []

def grepWith (extended fixed : Bool) : Tool := fun _ args =>
  withOptions {
    flags := "EFGPaciHhLlnoqrRsvwxyzUbT"
    valued := "efmABC"
    long := [("extended-regexp", 'E'), ("fixed-strings", 'F'), ("basic-regexp", 'G'),
      ("perl-regexp", 'P'), ("count", 'c'), ("ignore-case", 'i'), ("with-filename", 'H'),
      ("no-filename", 'h'), ("files-with-matches", 'l'), ("files-without-match", 'L'),
      ("line-number", 'n'), ("only-matching", 'o'), ("quiet", 'q'), ("silent", 'q'),
      ("recursive", 'r'), ("no-messages", 's'), ("invert-match", 'v'), ("word-regexp", 'w'),
      ("line-regexp", 'x'), ("regexp", 'e'), ("file", 'f'), ("max-count", 'm'),
      ("after-context", 'A'), ("before-context", 'B'), ("context", 'C'), ("color", 'T'),
      ("text", 'a')] } args
    (fun g => do
      let mut fromFiles := #[]
      for name in g.values 'f' do
        match ← readInput name with
        | .ok s => fromFiles := fromFiles ++ (fullLines s).map unfed
        | .error cause => fail (name ++ charsOf (": " ++ cause.reason)) 2
      let given := g.values 'e' ++ fromFiles.toList
      let isGiven := g.has 'e' ∨ g.has 'f'
      if !isGiven ∧ g.operands.isEmpty then
        let name := (← process).name
        let _ ← write 2 (charsOf "Usage: " ++ name ++
          charsOf " [OPTION]... PATTERNS [FILE]...\nTry '" ++ name ++
          charsOf " --help' for more information.\n")
        setStatus 2
      else if (← status) = 0 then
        let patterns := if isGiven then given else g.operands.take 1
        let files := if isGiven then g.operands else g.operands.drop 1
        let mode := g.last? "EFGP"
        let isExtended := (mode.map fun c => c == 'E' || c == 'P').getD extended
        let isFixed := (mode.map fun c => c == 'F').getD fixed
        match expressionsOf isFixed isExtended patterns with
        | none => fail (charsOf "Invalid regular expression") 2
        | some expressions => searchAll g files {
            expressions := expressions
            ignoreCase := g.has 'i' || g.has 'y'
            inverted := g.has 'v'
            wholeWords := g.has 'w'
            wholeLines := g.has 'x' }) 2
where
  searchAll (g : Given) (files : List Chars) (s : Search) : Act Unit := do
    let recursive := g.has 'r' ∨ g.has 'R'
    let w ← world
    let files := if recursive then
        (if files.isEmpty then [['.']] else files).flatMap (filesBelow w 64)
      else if files.isEmpty then [['-']] else files
    let named := g.has 'H' ∨ ((files.length > 1 ∨ recursive) ∧ !g.has 'h')
    let context (c : Char) : Nat :=
      (((g.value? c).orElse fun _ => g.value? 'C').bind nat?).getD 0
    let mut found := false
    let mut failed := false
    for file in files do
      match ← readInput file with
      | .error cause =>
        failed := true
        if !g.has 's' then say (file ++ charsOf (": " ++ cause.reason))
      | .ok text =>
        if (← isOutput file) ∧ !g.has 'q' ∧ !g.has 'l' ∧ !g.has 'L' then
          failed := true
          say (file ++ charsOf ": input file is also the output")
          continue
        let shown := if file = ['-'] then charsOf "(standard input)" else file
        let style : SearchStyle := {
          name := if named then some shown else none
          numbers := g.has 'n'
          onlyMatches := g.has 'o' }
        let lines := ((fullLines text).map unfed).toArray
        let hits := (List.range lines.size).filter fun n => s.selects (lines.getD n [])
        let hits := match (g.value? 'm').bind nat? with
          | some n => hits.take n
          | none => hits
        if !hits.isEmpty then found := true
        if g.has 'q' then pure ()
        else if g.has 'l' then if !hits.isEmpty then putLine shown
        else if g.has 'L' then if hits.isEmpty then putLine shown
        else if g.has 'c' then
          putLine ((if named then shown ++ [':'] else []) ++ natText hits.length)
        else if style.onlyMatches then
          for n in hits do
            let line := lines.getD n []
            if !s.inverted then
              for part in s.matchesFrom (s.subject line) (line.length + 1) 0 do
                put (style.line n true part)
        else
          let before := context 'B'
          let after := context 'A'
          let numbers := shownNumbers hits before after lines.size
          let mut last : Option Nat := none
          for n in numbers do
            if before + after > 0 ∧ last.any fun m => m + 1 < n then put (charsOf "--\n")
            last := some n
            put (style.line n (hits.contains n) (lines.getD n []))
    setStatus (if failed ∧ !(found ∧ g.has 'q') then 2 else if found then 0 else 1)

def grep : Tool := grepWith false false

end CompileFlags.Shell.Tool
