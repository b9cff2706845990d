import CompileFlags.Shell.Tool.Edit.Script

set_option autoImplicit false

namespace CompileFlags.Shell.Tool.Edit

/-- A line of input: its text and whether a line feed ends it. -/
structure Line where
  text : Chars
  fed : Bool

structure State where
  rest : List Line
  number : Nat := 0
  line : Line := ⟨[], true⟩
  hold : Chars := []
  queue : List Chars := []
  output : List Chars := []
  open_ : Bool := false
  active : List (Nat × Nat) := []
  substituted : Bool := false
  status : Option Nat := none
  silent : Bool := false
  lastRegex : Option Regex := none
  files : List (Chars × Chars) := []

/-- What the commands do next. -/
inductive Next where
  | goOn (position : Nat)
  | endCycle (prints : Bool)
  | restart

namespace State

def emit (s : State) (text : Chars) (fed : Bool) : State :=
  let start := if s.open_ then ['\n'] else []
  { s with
    output := (start ++ text ++ if fed then ['\n'] else []) :: s.output
    open_ := !fed }

def emitSpace (s : State) : State :=
  s.emit s.line.text s.line.fed

def flush (s : State) : State :=
  s.queue.foldl (fun s text =>
    let body := if text.getLast? = some '\n' then text.dropLast else text
    if text.isEmpty then s else s.emit body (text.getLast? == some '\n')) { s with queue := [] }

def isLast (s : State) : Bool := s.rest.isEmpty

def withText (s : State) (text : Chars) : State :=
  { s with line := { s.line with text := text } }

def matches_ (s : State) (r : Option Regex) (ignoreCase : Bool) : Bool :=
  match r.orElse fun _ => s.lastRegex with
  | some r => r.isFound { text := s.line.text.toArray, ignoreCase := ignoreCase }
  | none => false

def remember (s : State) (r : Option Regex) : State :=
  { s with lastRegex := r.orElse fun _ => s.lastRegex }

def addressed (s : State) : Address → Bool
  | .line n => s.number == n
  | .last => s.isLast
  | .pattern r ignoreCase => s.matches_ r ignoreCase
  | .every first step =>
    if step = 0 then s.number == first
    else decide (first ≤ s.number) && (s.number - first) % step == 0

def rememberAddress (s : State) : Address → State
  | .pattern r _ => s.remember r
  | _ => s

/-- Whether the command at a position is selected. A range stays open until its end is seen; a line
number that has passed ends it at once. -/
def selected (s : State) (position : Nat) : Selection → Bool × State
  | .all => (true, s)
  | .one a => (s.addressed a, s.rememberAddress a)
  | .range a b =>
    let closed := { s with active := s.active.filter (·.1 != position) }
    match s.active.lookup position with
    | some until_ =>
      match b with
      | .address (.line n) =>
        if s.number < n then (true, s) else (s.number == n, closed)
      | .address b => if s.addressed b then (true, closed.rememberAddress b) else (true, s)
      | _ => if s.number < until_ then (true, s) else (true, closed)
    | none =>
      let isZero := match a with
        | .line 0 => s.number == 1
        | _ => false
      if !(s.addressed a || isZero) then (false, s.rememberAddress a)
      else
        let s := s.rememberAddress a
        let opened (until_ : Nat) : State := { s with active := (position, until_) :: s.active }
        match b with
        | .address (.line n) => (true, if s.number < n then opened n else s)
        | .address b => if isZero && s.addressed b then (true, s) else (true, opened 0)
        | .after n => (true, if n = 0 then s else opened (s.number + n))
        | .multiple n =>
          let end_ := if n = 0 then s.number else (s.number + n - 1) / n * n
          (true, if end_ ≤ s.number then s else opened end_)

end State

/-- How letters are changed in a new text. -/
structure Casing where
  whole : Option Bool := none
  next : Option Bool := none

def casedChar (upper : Bool) (c : Char) : Char := if upper then c.toUpper else c.toLower

def Casing.apply (k : Casing) (s : Chars) : Chars × Casing :=
  let changed (c : Char) : Char := match k.whole with
    | some upper => casedChar upper c
    | none => c
  match k.next, s with
  | some upper, c :: rest => (casedChar upper c :: rest.map changed, { k with next := none })
  | _, s => (s.map changed, k)

def newText (subject : Regex.Subject) (first : Nat) (spot : Regex.Spot) (new : List Piece) : Chars :=
  let spot := { spot with groups := (0, first, spot.position) :: spot.groups }
  (new.foldl (fun (found, casing) piece =>
    match piece with
    | .text s =>
      let (s, casing) := Casing.apply casing s
      (found ++ s, casing)
    | .group n =>
      let (s, casing) := Casing.apply casing ((spot.groupText subject n).getD [])
      (found ++ s, casing)
    | .recase 'L' => (found, { casing with whole := some false })
    | .recase 'U' => (found, { casing with whole := some true })
    | .recase 'l' => (found, { casing with next := some false })
    | .recase 'u' => (found, { casing with next := some true })
    | .recase _ => (found, {})) (([] : Chars), ({} : Casing))).1

/-- The text from a place on with matches replaced, beginning with the nth, and whether any was. A
match of no text right behind another match does not count. -/
def replaced (r : Regex) (subject : Regex.Subject) (new : List Piece) (all : Bool) :
    Nat → Nat → Nat → Option Nat → Chars × Bool
  | 0, _, position, _ => ((subject.text.extract position subject.text.size).toList, false)
  | n + 1, nth, position, lastEnd =>
    let rest (from_ : Nat) : Chars := (subject.text.extract from_ subject.text.size).toList
    match r.search? subject position with
    | none => (rest position, false)
    | some (first, spot) =>
      let before := (subject.text.extract position first).toList
      let isEmpty := first = spot.position
      let step (from_ : Nat) : Chars := (subject.text.extract from_ (from_ + 1)).toList
      if isEmpty ∧ lastEnd = some first then
        if subject.text.size ≤ first then (before, false)
        else
          let (more, found) := replaced r subject new all n nth (first + 1) none
          (before ++ step first ++ more, found)
      else
        let isWanted := nth ≤ 1
        let shown := if isWanted then newText subject first spot new
          else (subject.text.extract first spot.position).toList
        if isWanted ∧ !all then (before ++ shown ++ rest spot.position, true)
        else if isEmpty then
          if subject.text.size ≤ first then (before ++ shown, isWanted)
          else
            let (more, found) := replaced r subject new all n (nth - 1) (first + 1) none
            (before ++ shown ++ step first ++ more, isWanted || found)
        else
          let (more, found) := replaced r subject new all n (nth - 1) spot.position
            (some spot.position)
          (before ++ shown ++ more, isWanted || found)

def behindBlock (script : Array Step) (depth : Nat) : Nat → Nat → Nat
  | 0, position => position
  | n + 1, position =>
    match script[position]? with
    | none => position
    | some step =>
      match step.action with
      | .enter => behindBlock script (depth + 1) n (position + 1)
      | .leave => if depth ≤ 1 then position + 1 else behindBlock script (depth - 1) n (position + 1)
      | _ => behindBlock script depth n (position + 1)

def labelPosition (script : Array Step) (name : Chars) : Nat :=
  if name.isEmpty then script.size
  else ((List.range script.size).find? fun (i : Nat) =>
    match script[i]? with
    | some ⟨_, _, .label other⟩ => other == name
    | _ => false).getD script.size

def listed (s : Chars) : Chars :=
  (s.flatMap fun c =>
    match c with
    | '\\' => ['\\', '\\']
    | '\n' => ['\\', 'n']
    | '\t' => ['\\', 't']
    | '\r' => ['\\', 'r']
    | '\x07' => ['\\', 'a']
    | '\x08' => ['\\', 'b']
    | '\x0c' => ['\\', 'f']
    | '\x0b' => ['\\', 'v']
    | c =>
      if c < ' ' ∨ '~' < c then
        let ds := Nat.toDigits 8 c.toNat
        '\\' :: List.replicate (3 - ds.length) '0' ++ ds
      else [c]) ++ ['$']

def State.advance (s : State) (joins : Bool) : State :=
  match s.rest with
  | [] => s
  | line :: rest =>
    let text := if joins then s.line.text ++ '\n' :: line.text else line.text
    { s with rest := rest, number := s.number + 1, line := ⟨text, line.fed⟩ }

def State.writeFile (s : State) (file text : Chars) : State :=
  if file = charsOf "/dev/stdout" then s.emit text true
  else
    let old := (s.files.lookup file).getD []
    { s with files := (file, old ++ text ++ ['\n']) :: s.files.filter (·.1 != file) }

def perform (w : Disk.World) (quiet : Bool) (script : Array Step) (position : Nat) (s : State) :
    Action → State × Next
  | .substitute r ignoreCase new all nth prints file =>
    let s := s.remember r
    let go : State × Next := (s, .goOn (position + 1))
    match s.lastRegex with
    | none => go
    | some r =>
      let subject : Regex.Subject := { text := s.line.text.toArray, ignoreCase := ignoreCase }
      let (text, found) := replaced r subject new all (s.line.text.length + 2) nth 0 none
      if !found then go
      else
        let s := { s.withText text with substituted := true }
        let s := if prints then s.emitSpace else s
        let s := match file with
          | some file => s.writeFile file text
          | none => s
        (s, .goOn (position + 1))
  | .translate from_ into =>
    let text := s.line.text.map fun c => ((from_.zip into).lookup c).getD c
    (s.withText text, .goOn (position + 1))
  | .append text => ({ s with queue := s.queue ++ [text] }, .goOn (position + 1))
  | .insert text => (s.emit text.dropLast true, .goOn (position + 1))
  | .change text => (s.emit text.dropLast true, .endCycle false)
  | .label _ => (s, .goOn (position + 1))
  | .branch name => (s, .goOn (labelPosition script name))
  | .branchIf name =>
    if s.substituted then ({ s with substituted := false }, .goOn (labelPosition script name))
    else (s, .goOn (position + 1))
  | .branchUnless name =>
    if s.substituted then ({ s with substituted := false }, .goOn (position + 1))
    else (s, .goOn (labelPosition script name))
  | .quit status silent =>
    ({ s with status := some status, silent := silent }, .endCycle (!silent))
  | .read file =>
    let text := match w.readBytes ⟨textOf file⟩ with
      | .ok content => charsOfBytes content
      | .error _ => []
    ({ s with queue := s.queue ++ [text] }, .goOn (position + 1))
  | .write file => (s.writeFile file s.line.text, .goOn (position + 1))
  | .enter | .leave => (s, .goOn (position + 1))
  | .plain letter =>
    let go (s : State) : State × Next := (s, .goOn (position + 1))
    match letter with
    | 'd' => (s, .endCycle false)
    | 'D' =>
      match s.line.text.dropWhile (· != '\n') with
      | [] => (s, .endCycle false)
      | _ :: rest => (s.withText rest, .restart)
    | 'p' => go s.emitSpace
    | 'P' => go (s.emit (s.line.text.takeWhile (· != '\n')) true)
    | 'n' =>
      if s.isLast then ({ s with status := some 0 }, .endCycle true)
      else go ((if quiet then s else s.emitSpace).flush.advance false)
    | 'N' =>
      if s.isLast then ({ s with status := some 0 }, .endCycle true)
      else go (s.flush.advance true)
    | 'h' => go { s with hold := s.line.text }
    | 'H' => go { s with hold := s.hold ++ '\n' :: s.line.text }
    | 'g' => go (s.withText s.hold)
    | 'G' => go (s.withText (s.line.text ++ '\n' :: s.hold))
    | 'x' => go { s.withText s.hold with hold := s.line.text }
    | 'l' => go (s.emit (listed s.line.text) true)
    | '=' => go (s.emit (natText s.number) true)
    | 'z' => go (s.withText [])
    | 'F' => go (s.emit ['-'] true)
    | _ => go s

def runFrom (w : Disk.World) (quiet : Bool) (script : Array Step) : Nat → Nat → State → State × Next
  | 0, _, s => ({ s with status := some 1 }, .endCycle false)
  | n + 1, position, s =>
    match script[position]? with
    | none => (s, .endCycle true)
    | some step =>
      let (found, s) := s.selected position step.selection
      if found = step.negated then
        let next := match step.action with
          | .enter => behindBlock script 0 (script.size + 1) position
          | _ => position + 1
        runFrom w quiet script n next s
      else
        match perform w quiet script position s step.action with
        | (s, .goOn next) => runFrom w quiet script n next s
        | ended => ended

def cycles (w : Disk.World) (quiet : Bool) (script : Array Step) : Nat → Bool → State → State
  | 0, _, s => s
  | n + 1, keepsSpace, s =>
    if !keepsSpace ∧ s.rest.isEmpty then s
    else
      let s := if keepsSpace then s else s.advance false
      let (s, next) := runFrom w quiet script 100000 0 { s with substituted := false }
      let prints := match next with
        | .endCycle prints => prints
        | _ => false
      let s := (if prints && !quiet then s.emitSpace else s).flush
      if s.status.isSome then s
      else
        let again := match next with
          | .restart => true
          | _ => false
        cycles w quiet script n again s

def linesOfInput (text : Chars) : List Line :=
  (fullLines text).map fun line => ⟨unfed line, line.getLast? == some '\n'⟩

def run (w : Disk.World) (quiet : Bool) (script : Array Step) (text : Chars) : State :=
  let lines := linesOfInput text
  cycles w quiet script (10 * lines.length + 10) false { rest := lines }

def State.text (s : State) : Chars := s.output.reverse.flatten

end CompileFlags.Shell.Tool.Edit
