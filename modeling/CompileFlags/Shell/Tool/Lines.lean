import CompileFlags.Shell.Tool.Basic

set_option autoImplicit false

namespace CompileFlags.Shell.Tool

def visible (tabs : Bool) (c : Char) : Chars :=
  if c = '\n' then [c]
  else if c = '\t' then if tabs then ['^', 'I'] else [c]
  else if c < ' ' then ['^', Char.ofNat (c.toNat + 64)]
  else if c = '\x7f' then ['^', '?']
  else if c.toNat < 128 then [c]
  else
    let low := Char.ofNat (c.toNat - 128)
    ['M', '-'] ++
      if low < ' ' then ['^', Char.ofNat (low.toNat + 64)]
      else if low = '\x7f' then ['^', '?'] else [low]

/-- How `cat` shows its input. -/
structure CatStyle where
  numbers : Bool
  onlyFilled : Bool
  ends : Bool
  tabs : Bool
  control : Bool
  squeezes : Bool

def squeezed (wasEmpty : Bool) : List Chars → List Chars
  | [] => []
  | line :: rest =>
    let isEmpty := line = ['\n']
    if isEmpty ∧ wasEmpty then squeezed true rest else line :: squeezed isEmpty rest

def rightAligned (width n : Nat) : Chars :=
  let ds := natText n
  List.replicate (width - ds.length) ' ' ++ ds

def numbered (style : CatStyle) : Nat → List Chars → List Chars
  | _, [] => []
  | n, line :: rest =>
    if style.onlyFilled ∧ line = ['\n'] then line :: numbered style n rest
    else (rightAligned 6 n ++ '\t' :: line) :: numbered style (n + 1) rest

def CatStyle.show (style : CatStyle) (s : Chars) : Chars :=
  let lines := fullLines s
  let lines := if style.squeezes then squeezed false lines else lines
  let lines := lines.map fun line => line.flatMap fun c =>
    if c = '\n' then if style.ends then ['$', '\n'] else ['\n']
    else if style.control then visible style.tabs c
    else if c = '\t' ∧ style.tabs then ['^', 'I'] else [c]
  let lines := if style.numbers ∨ style.onlyFilled then numbered style 1 lines else lines
  lines.flatten

def contentOf (w : Disk.World) (name : Chars) : List UInt8 :=
  (w.readBytes ⟨textOf name⟩).toOption.getD []

def cat : Tool := fun _ args =>
  withOptions {
    flags := "AbeEnstTuv"
    long := [("show-all", 'A'), ("number-nonblank", 'b'), ("show-ends", 'E'), ("number", 'n'),
      ("squeeze-blank", 's'), ("show-tabs", 'T'), ("show-nonprinting", 'v')] } args fun g => do
    let mut files := #[]
    for name in if g.operands.isEmpty then [['-']] else g.operands do
      if (← isOutput name) ∧ !(contentOf (← world) name).isEmpty then
        fail (name ++ charsOf ": input file is output file")
      else files := files.push name
    let found ← if files.isEmpty then pure [] else inputs files.toList (plainReport 1)
    let style : CatStyle := {
      numbers := g.has 'n'
      onlyFilled := g.has 'b'
      ends := g.has 'E' || g.has 'A' || g.has 'e'
      tabs := g.has 'T' || g.has 'A' || g.has 't'
      control := g.has 'v' || g.has 'A' || g.has 'e' || g.has 't'
      squeezes := g.has 's' }
    let plain := !(style.numbers || style.onlyFilled || style.ends || style.tabs ||
      style.control || style.squeezes)
    let whole := (found.map (·.2)).flatten
    put (if plain then whole else style.show whole)
    if (← descriptor? 0).isNone ∧ (g.operands.isEmpty ∨ g.operands.contains ['-']) then
      fail (charsOf ("closing standard input: " ++ IoFault.noStream.reason))

def tac : Tool := fun _ args =>
  withOptions { flags := "b" } args fun g => do
    for (_, s) in ← inputs g.operands openReport do
      put (fullLines s).reverse.flatten

def rev : Tool := fun _ args =>
  withOptions { flags := "" } args fun g => do
    for (_, s) in ← inputs g.operands (plainReport 1) do
      for line in fullLines s do
        let text := unfed line
        put (text.reverse ++ line.drop text.length)

def nl : Tool := fun _ args =>
  withOptions { flags := "", valued := "bwsvi" } args fun g => do
    let found ← inputs g.operands (plainReport 1)
    let all := g.value? 'b' = some ['a']
    let width := ((g.value? 'w').bind nat?).getD 6
    let separator := (g.value? 's').getD ['\t']
    let mut n := ((g.value? 'v').bind nat?).getD 1
    for line in fullLines (found.map (·.2)).flatten do
      if line = ['\n'] ∧ !all then put (List.replicate (width + separator.length) ' ' ++ line)
      else
        put (rightAligned width n ++ separator ++ completed line)
        n := n + 1

def tee : Tool := fun _ args =>
  withOptions { flags := "aip", long := [("append", 'a')] } args fun g => do
    let s ← readAll 0
    put s
    for name in g.operands do
      match ← openFile (if g.has 'a' then .append else .write) name with
      | .ok position => let _ ← writeStream position s
      | .error cause => fail (name ++ charsOf (": " ++ cause.reason))

def count? (s : Chars) : Option (Option Char × Nat) :=
  let (sign, ds) := match s with
    | '-' :: ds => (some '-', ds)
    | '+' :: ds => (some '+', ds)
    | ds => (none, ds)
  let digits := ds.takeWhile Char.isDigit
  let factor := match ds.drop digits.length with
    | [] => some 1
    | ['k'] | ['K'] => some 1024
    | ['b'] => some 512
    | ['M'] => some 1048576
    | _ => none
  match nat? digits, factor with
  | some n, some f => some (sign, n * f)
  | _, _ => none

def modernCount (plus : Bool) : List Chars → List Chars
  | ('-' :: c :: rest) :: args =>
    if c.isDigit ∧ rest.all Char.isDigit then ['-', 'n'] :: (c :: rest) :: args
    else ('-' :: c :: rest) :: args
  | ('+' :: c :: rest) :: args =>
    if plus ∧ c.isDigit ∧ rest.all Char.isDigit then ['-', 'n'] :: ('+' :: c :: rest) :: args
    else ('+' :: c :: rest) :: args
  | args => args

/-- Print the chosen part of each input, under its name if there are several. -/
def parts (args : List Chars) (plus : Bool)
    (choose : Bool → Option Char → Nat → Chars → Chars) : Act Unit :=
  withOptions {
    flags := "qvzfF"
    valued := "nc"
    long := [("lines", 'n'), ("bytes", 'c'), ("quiet", 'q'), ("silent", 'q'), ("verbose", 'v')] }
    (modernCount plus args) fun g => do
    let last := (g.last? "nc").getD 'n'
    let text := (g.value? last).getD ['1', '0']
    match count? text with
    | none =>
      let unit := if last = 'n' then "lines" else "bytes"
      fail (charsOf ("invalid number of " ++ unit ++ ": ") ++ quoted text)
    | some (sign, n) =>
      let files := if g.operands.isEmpty then [['-']] else g.operands
      let titled := (files.length > 1 ∨ g.has 'v') ∧ !g.has 'q'
      let mut first := true
      for name in files do
        match ← readInput name with
        | .error cause => openReport name cause
        | .ok s =>
          if titled then
            let shown := if name = ['-'] then charsOf "standard input" else name
            put ((if first then [] else ['\n']) ++ charsOf "==> " ++ shown ++ charsOf " <==\n")
          first := false
          put (choose (last == 'c') sign n s)

def head : Tool := fun _ args =>
  parts args false fun bytes sign n s =>
    if bytes then s.take (if sign = some '-' then s.length - n else n)
    else
      let lines := fullLines s
      (lines.take (if sign = some '-' then lines.length - n else n)).flatten

def tail : Tool := fun _ args =>
  parts args true fun bytes sign n s =>
    if bytes then s.drop (if sign = some '+' then n - 1 else s.length - n)
    else
      let lines := fullLines s
      (lines.drop (if sign = some '+' then n - 1 else lines.length - n)).flatten

def wordCount (s : Chars) : Nat :=
  (s.foldl (fun (n, inside) c =>
    let blank := inClass "space" c
    (if !blank && !inside then n + 1 else n, !blank)) (0, false)).1

def wc : Tool := fun _ args =>
  withOptions {
    flags := "clmwL"
    long := [("bytes", 'c'), ("chars", 'm'), ("lines", 'l'), ("words", 'w'),
      ("max-line-length", 'L')] } args fun g => do
    let found ← inputs g.operands (plainReport 1)
    let shown := "lwmcL".toList.filter fun c => if g.options.isEmpty then c != 'm' && c != 'L' else g.has c
    let counts (s : Chars) : List Nat := shown.map fun c =>
      match c with
      | 'l' => s.count '\n'
      | 'w' => wordCount s
      | 'L' => ((fullLines s).map fun line => (unfed line).length).foldl max 0
      | _ => s.length
    let total := (found.map fun i => i.2.length).foldl (· + ·) 0
    let width := if shown.length = 1 ∧ g.operands.length ≤ 1 then 1
      else if g.operands.isEmpty ∨ g.operands.contains ['-'] then 7
      else (natText total).length
    let row (ns : List Nat) (name : Chars) : Act Unit :=
      let text := [' '].intercalate (ns.map (rightAligned width))
      putLine (if name.isEmpty then text else text ++ ' ' :: name)
    for (name, s) in found do
      row (counts s) (if g.operands.isEmpty then [] else name)
    if g.operands.length > 1 then
      let sums := (found.map fun i => counts i.2).foldl
        (fun sums ns => sums.zipWith (· + ·) ns) (shown.map fun _ => 0)
      row sums (charsOf "total")

/-- A part of a line to sort by: its first and last field, and how it is compared. -/
structure SortKey where
  first : Nat := 1
  last : Option Nat := none
  numeric : Bool := false
  reversed : Bool := false
  folded : Bool := false

def sortFields (separator : Option Char) (line : Chars) : List Chars :=
  match separator with
  | some c => Text.splitOn c line
  | none =>
    (line.foldl (fun (fields : List Chars) c =>
      match fields with
      | [] => [[c]]
      | field :: rest =>
        if isBlank c ∧ (field.any fun d => !isBlank d) then [c] :: field :: rest
        else (c :: field) :: rest) []).reverse.map List.reverse

def leadingNumber (s : Chars) : Int :=
  let s := s.dropWhile isBlank
  let (negative, s) := match s with
    | '-' :: rest => (true, rest)
    | s => (false, s)
  let whole := s.takeWhile Char.isDigit
  let part := match s.drop whole.length with
    | '.' :: rest => (rest.takeWhile Char.isDigit).take 5
    | _ => []
  let n : Int := natOf (whole ++ part) * Int.pow 10 (5 - part.length)
  if negative then -n else n

def SortKey.text (key : SortKey) (separator : Option Char) (line : Chars) : Chars :=
  if key.first = 1 ∧ key.last.isNone then line
  else
    let fields := (sortFields separator line).drop (key.first - 1)
    let fields := match key.last with
      | some last => fields.take (last + 1 - key.first)
      | none => fields
    match separator with
    | some c => [c].intercalate fields
    | none => fields.flatten

def SortKey.compare (key : SortKey) (separator : Option Char) (a b : Chars) : Ordering :=
  let x := key.text separator a
  let y := key.text separator b
  let order := if key.numeric then Ord.compare (leadingNumber x) (leadingNumber y)
    else
      let (x, y) := if key.folded then (x.map Char.toUpper, y.map Char.toUpper) else (x, y)
      if x < y then .lt else if y < x then .gt else .eq
  if key.reversed then order.swap else order

/-- A key as it is written behind `-k`, with the flags that hold for all keys. -/
def sortKey (all : SortKey) (s : Chars) : SortKey :=
  let side (s : Chars) : Nat × Chars :=
    let ds := s.takeWhile Char.isDigit
    let rest := s.drop ds.length
    (natOf ds, match rest with
      | '.' :: rest => rest.dropWhile Char.isDigit
      | rest => rest)
  let (first, rest) := side (s.takeWhile (· != ','))
  let behind := (s.dropWhile (· != ',')).drop 1
  let (last, more) := side behind
  let flags := rest ++ more
  let key : SortKey := {
    first := max first 1
    last := if behind.isEmpty then none else some last }
  if flags.isEmpty then
    { key with numeric := all.numeric, reversed := all.reversed, folded := all.folded }
  else
    { key with
      numeric := flags.contains 'n' || flags.contains 'g'
      reversed := flags.contains 'r'
      folded := flags.contains 'f' }

def sort : Tool := fun _ args =>
  withOptions {
    flags := "bdfginrsuVcCmz"
    valued := "kot"
    long := [("numeric-sort", 'n'), ("reverse", 'r'), ("unique", 'u'), ("ignore-case", 'f'),
      ("key", 'k'), ("field-separator", 't'), ("output", 'o'), ("stable", 's')] } args
    (fun g => do
      let found ← inputs g.operands fun name cause =>
        fail (charsOf "cannot read: " ++ name ++ charsOf (": " ++ cause.reason)) 2
      if (← status) = 0 then
        let lines := (found.flatMap fun i => fullLines i.2).map unfed
        let separator := (g.value? 't').bind List.head?
        let all : SortKey := {
          numeric := g.has 'n' || g.has 'g'
          reversed := g.has 'r'
          folded := g.has 'f' }
        let keys := match g.values 'k' with
          | [] => [all]
          | keys => keys.map (sortKey all)
        let whole : SortKey := { reversed := g.has 'r' }
        let byKeys (a b : Chars) : Ordering := keys.foldl (fun order key =>
          order.then (key.compare separator a b)) .eq
        let order (a b : Chars) : Ordering :=
          let o := byKeys a b
          if g.has 's' ∨ g.has 'u' then o else o.then (whole.compare none a b)
        let sorted := lines.mergeSort fun a b => order a b != .gt
        let sorted := if g.has 'u' then distinctLines byKeys sorted else sorted
        let text := sorted.flatMap (· ++ ['\n'])
        match g.value? 'o' with
        | none => put text
        | some name =>
          match ← openFile .write name with
          | .ok position => let _ ← writeStream position text
          | .error cause =>
            fail (charsOf "open failed: " ++ name ++ charsOf (": " ++ cause.reason)) 2) 2
where
  distinctLines (order : Chars → Chars → Ordering) : List Chars → List Chars
    | [] => []
    | [line] => [line]
    | a :: b :: rest =>
      if order a b = .eq then
        match distinctLines order (b :: rest) with
        | _ :: others => a :: others
        | [] => [a]
      else a :: distinctLines order (b :: rest)

def runs (same : Chars → Chars → Bool) : List Chars → List (Nat × Chars)
  | [] => []
  | line :: rest =>
    match runs same rest with
    | (n, other) :: others =>
      if same line other then (n + 1, line) :: others else (1, line) :: (n, other) :: others
    | [] => [(1, line)]

def uniq : Tool := fun _ args =>
  withOptions {
    flags := "cdiuz"
    valued := "fsw"
    long := [("count", 'c'), ("repeated", 'd'), ("unique", 'u'), ("ignore-case", 'i')] } args
    fun g => do
    for (_, s) in ← inputs (g.operands.take 1) (plainReport 1) do
      let skippedFields := ((g.value? 'f').bind nat?).getD 0
      let skippedChars := ((g.value? 's').bind nat?).getD 0
      let key (line : Chars) : Chars :=
        let line := ((sortFields none line).drop skippedFields).flatten.drop skippedChars
        let line := match (g.value? 'w').bind nat? with
          | some n => line.take n
          | none => line
        if g.has 'i' then line.map Char.toLower else line
      for (n, line) in runs (fun a b => key a == key b) ((fullLines s).map unfed) do
        let isShown := (!g.has 'd' ∨ n > 1) ∧ (!g.has 'u' ∨ n = 1)
        if isShown then
          putLine (if g.has 'c' then rightAligned 7 n ++ ' ' :: line else line)

def ranges? (s : Chars) : Option (List (Nat × Option Nat)) :=
  (Text.splitOn ',' s).mapM fun part =>
    match Text.splitOn '-' part with
    | [a] => (nat? a).map fun n => (n, some n)
    | [[], b] => (nat? b).map fun n => (1, some n)
    | [a, []] => (nat? a).map fun n => (n, none)
    | [a, b] => (nat? a).bind fun m => (nat? b).map fun n => (m, some n)
    | _ => none

def inRanges (ranges : List (Nat × Option Nat)) (n : Nat) : Bool :=
  ranges.any fun (low, high) => decide (low ≤ n) && high.all fun h => decide (n ≤ h)

def chosen {α : Type} (ranges : List (Nat × Option Nat)) (complement : Bool) (xs : List α) :
    List α :=
  (xs.zipIdx.filter fun (_, i) => inRanges ranges (i + 1) != complement).map (·.1)

def cut : Tool := fun _ args =>
  withOptions {
    flags := "snz"
    valued := "bcdfoC"
    long := [("bytes", 'b'), ("characters", 'c'), ("fields", 'f'), ("delimiter", 'd'),
      ("only-delimited", 's'), ("output-delimiter", 'o')] }
    (args.filter (· != charsOf "--complement")) fun g => do
    let complement := args.contains (charsOf "--complement")
    match g.last? "bcf" with
    | none => misuse (charsOf "you must specify a list of bytes, characters, or fields")
    | some mode =>
      let text := (g.value? mode).getD []
      let delimiter := (g.value? 'd').getD ['\t']
      match ranges? text with
      | none =>
        let kind := if mode = 'f' then "invalid field value " else "invalid byte/character position "
        misuse (charsOf kind ++ quoted text)
      | some ranges =>
        if ranges.any (·.1 = 0) then
          misuse (charsOf (if mode = 'f' then "fields are numbered from 1"
            else "byte/character positions are numbered from 1"))
        else if mode = 'f' ∧ delimiter.length > 1 then
          misuse (charsOf "the delimiter must be a single character")
        else
          let d := delimiter.headD '\x00'
          for (_, s) in ← inputs g.operands (plainReport 1) do
            for line in (fullLines s).map unfed do
              if mode ≠ 'f' then
                putLine ((g.value? 'o').getD [] |>.intercalate
                  ((chosen ranges complement line).map ([·])))
              else if d ∈ line then
                putLine (((g.value? 'o').getD [d]).intercalate
                  (chosen ranges complement (Text.splitOn d line)))
              else if !g.has 's' then putLine line

/-- The characters of a set of `tr`; the length bounds how many there are to read. -/
def trSet : Nat → Chars → Chars
  | 0, _ => []
  | _, [] => []
  | n + 1, '[' :: ':' :: rest =>
    let name := rest.takeWhile (· != ':')
    match rest.drop name.length with
    | ':' :: ']' :: after =>
      ((List.range 256).map Char.ofNat).filter (inClass (String.ofList name)) ++ trSet n after
    | _ => '[' :: trSet n (':' :: rest)
  | n + 1, s =>
    let (c, rest) := trChar s
    match rest with
    | '-' :: d :: more =>
      let (d, after) := trChar (d :: more)
      if d < c then c :: '-' :: trSet n (d :: after)
      else
        ((List.range (d.toNat - c.toNat + 1)).map fun k => Char.ofNat (c.toNat + k)) ++
          trSet n after
    | rest => c :: trSet n rest
where
  trChar : Chars → Char × Chars
    | '\\' :: c :: rest =>
      if isOctalDigit c then
        let ds := ((c :: rest).take 3).takeWhile isOctalDigit
        (Char.ofNat (octalValue ds % 256), (c :: rest).drop ds.length)
      else ((letterEscape? c).getD c, rest)
    | c :: rest => (c, rest)
    | [] => ('\x00', [])

def squeezeRuns (set_ : Chars) (last : Option Char) : Chars → Chars
  | [] => []
  | c :: s =>
    if last = some c ∧ set_.contains c then squeezeRuns set_ last s
    else c :: squeezeRuns set_ (some c) s

def tr : Tool := fun _ args =>
  withOptions {
    flags := "cCdst"
    long := [("complement", 'c'), ("delete", 'd'), ("squeeze-repeats", 's'),
      ("truncate-set1", 't')]
    permutes := false } args fun g => do
    let wanted := if g.has 'd' = g.has 's' then 2 else 1
    match g.operands with
    | [] => misuse (charsOf "missing operand")
    | first :: rest =>
      if rest.length > 1 ∨ (rest.length = 1 ∧ g.has 'd' ∧ !g.has 's') then
        misuse (charsOf "extra operand " ++
          quoted ((if rest.length > 1 then rest.getD 1 [] else rest.headD [])))
      else if rest.isEmpty ∧ wanted = 2 then
        misuse (charsOf "missing operand after " ++ quoted first ++
          charsOf (if g.has 'd' then "\nTwo strings must be given when both deleting and squeezing repeats."
            else "\nTwo strings must be given when translating."))
      else
        let plain := trSet (first.length + 1) first
        let complement := g.has 'c' ∨ g.has 'C'
        let from_ := if complement then
            ((List.range 256).map Char.ofNat).filter fun c => !plain.contains c
          else plain
        let second := rest.headD []
        let into := trSet (second.length + 1) second
        let last := into.getLast?.getD '\x00'
        let map (c : Char) : Char :=
          match (from_.reverse.zipIdx).find? fun (d, _) => d == c with
          | some (_, i) => into.getD (from_.length - 1 - i) (if g.has 't' then c else last)
          | none => c
        let s ← readAll 0
        if g.has 'd' then
          let kept := s.filter fun c => !from_.contains c
          put (if g.has 's' then squeezeRuns into none kept else kept)
        else if rest.isEmpty then put (squeezeRuns from_ none s)
        else
          let mapped := s.map map
          put (if g.has 's' then squeezeRuns into none mapped else mapped)

def paste : Tool := fun _ args =>
  withOptions { flags := "sz", valued := "d", long := [("serial", 's')] } args fun g => do
    let found ← inputs g.operands (plainReport 1)
    let delimiters := trSet 64 ((g.value? 'd').getD ['\t'])
    let delimiter (i : Nat) : Chars :=
      if delimiters.isEmpty then [] else [delimiters.getD (i % delimiters.length) '\t']
    let joined (parts : List Chars) : Chars :=
      (parts.zipIdx.map fun (part, i) => if i = 0 then part else delimiter (i - 1) ++ part).flatten
    let columns := found.map fun i => (fullLines i.2).map unfed
    if g.has 's' then
      for column in columns do putLine (joined column)
    else
      for i in List.range ((columns.map List.length).foldl max 0) do
        putLine (joined (columns.map fun column => column.getD i []))

def folded (width : Nat) : Nat → Chars → List Chars
  | 0, s => [s]
  | n + 1, s => if s.length ≤ width then [s] else s.take width :: folded width n (s.drop width)

def fold : Tool := fun _ args =>
  withOptions { flags := "bs", valued := "w" } args fun g => do
    let width := max 1 (((g.value? 'w').bind nat?).getD 80)
    for (_, s) in ← inputs g.operands (plainReport 1) do
      for line in fullLines s do
        let text := unfed line
        put (['\n'].intercalate (folded width text.length text) ++ line.drop text.length)

end CompileFlags.Shell.Tool
