import CompileFlags.Shell.Pattern

set_option autoImplicit false

namespace CompileFlags.Shell

inductive Regex where
  | empty
  | char (c : Char)
  | any
  | oneOf (negated : Bool) (sets : List CharSet)
  | start
  | stop
  | edge (before after : Bool)
  | anyEdge (wanted : Bool)
  | group (n : Nat) (r : Regex)
  | back (n : Nat)
  | both (r s : Regex)
  | either (r s : Regex)
  | times (r : Regex) (low : Nat) (high : Option Nat)
deriving Inhabited

namespace Regex

/-- How far a match has come, and where its groups lie. -/
structure Spot where
  position : Nat
  groups : List (Nat × Nat × Nat)

/-- A text to be searched. -/
structure Subject where
  text : Array Char
  ignoreCase : Bool := false
  lines : Bool := false

def isWordChar (c : Char) : Bool := isNameChar c

def Subject.same (s : Subject) (c d : Char) : Bool :=
  c == d || (s.ignoreCase && c.toLower == d.toLower)

def Subject.wordAt (s : Subject) (position : Nat) : Bool :=
  (s.text[position]?).any isWordChar

def Subject.wordBefore (s : Subject) (position : Nat) : Bool :=
  match position with
  | 0 => false
  | n + 1 => s.wordAt n

def distinct (spots : List Spot) : List Spot :=
  (spots.foldl (fun (kept : List Spot) spot =>
    if kept.any (·.position == spot.position) then kept else spot :: kept) []).reverse

def iterate (step : Spot → List Spot) : Nat → Nat → Option Nat → Spot → List Spot
  | 0, _, _, spot => [spot]
  | n + 1, low, high, spot =>
    let more := if high = some 0 then []
      else distinct ((step spot).flatMap fun next =>
        if spot.position < next.position then iterate step n (low - 1) (high.map (· - 1)) next
        else if 0 < low then [next] else [])
    if 0 < low then more else more ++ [spot]

def Spot.groupText (spot : Spot) (s : Subject) (n : Nat) : Option Chars :=
  (spot.groups.lookup n).map fun (first, last) => (s.text.extract first last).toList

def spots (s : Subject) : Regex → Spot → List Spot
  | .empty, spot => [spot]
  | .char c, spot => one spot fun d => s.same c d
  | .any, spot => one spot fun d => !(s.lines && d == '\n')
  | .oneOf negated sets, spot => one spot fun d =>
    let found := sets.any fun set =>
      set.has d || (s.ignoreCase && (set.has d.toLower || set.has d.toUpper))
    found != negated
  | .start, spot =>
    let fits := spot.position = 0 ∨
      (s.lines ∧ s.text[spot.position - 1]? = some '\n')
    if fits then [spot] else []
  | .stop, spot =>
    let fits := spot.position = s.text.size ∨ (s.lines ∧ s.text[spot.position]? = some '\n')
    if fits then [spot] else []
  | .edge before after, spot =>
    if s.wordBefore spot.position = before ∧ s.wordAt spot.position = after then [spot] else []
  | .anyEdge wanted, spot =>
    if (s.wordBefore spot.position != s.wordAt spot.position) = wanted then [spot] else []
  | .group n r, spot =>
    (spots s r spot).map fun next =>
      { next with groups := (n, spot.position, next.position) :: next.groups.filter (·.1 != n) }
  | .back n, spot =>
    match spot.groupText s n with
    | none => []
    | some text =>
      let found := (s.text.extract spot.position (spot.position + text.length)).toList
      if found.length = text.length ∧ (found.zip text).all (fun p => s.same p.1 p.2) then
        [{ spot with position := spot.position + text.length }]
      else []
  | .both r q, spot => distinct ((spots s r spot).flatMap (spots s q))
  | .either r q, spot => spots s r spot ++ spots s q spot
  | .times r low high, spot => iterate (spots s r) (s.text.size + low + 2) low high spot
where
  one (spot : Spot) (p : Char → Bool) : List Spot :=
    if (s.text[spot.position]?).any p then [{ spot with position := spot.position + 1 }] else []

def matchAt? (r : Regex) (s : Subject) (position : Nat) : Option Spot :=
  (spots s r ⟨position, []⟩).foldl (fun best spot =>
    match best with
    | some b => if b.position < spot.position then some spot else best
    | none => some spot) none

/-- The first match from a place on: where it starts, and its end with the groups. -/
def search? (r : Regex) (s : Subject) (from_ : Nat) : Option (Nat × Spot) :=
  (List.range (s.text.size + 1 - from_)).findSome? fun k =>
    (matchAt? r s (from_ + k)).map fun spot => (from_ + k, spot)

def isFound (r : Regex) (s : Subject) : Bool :=
  (search? r s 0).isSome

/-- What is left of an expression, and the number of the next group. -/
structure Reading where
  rest : Chars
  next : Nat
  extended : Bool

abbrev Read := StateT Reading Option

def literal (s : Chars) : Regex :=
  s.foldr (fun c r => .both (.char c) r) .empty

def escaped (c : Char) : Regex :=
  match c with
  | 'w' => .oneOf false [.named "alnum", .one '_']
  | 'W' => .oneOf true [.named "alnum", .one '_']
  | 's' => .oneOf false [.named "space"]
  | 'S' => .oneOf true [.named "space"]
  | 'b' => .anyEdge true
  | 'B' => .anyEdge false
  | '<' => .edge false true
  | '>' => .edge true false
  | '\x60' => .start
  | '\x27' => .stop
  | 'n' => .char '\n'
  | 't' => .char '\t'
  | c => if '1' ≤ c ∧ c ≤ '9' then .back (c.toNat - 0x30) else .char c

def bounds? (s : Chars) : Option (Nat × Option Nat) :=
  let low := s.takeWhile Char.isDigit
  match s.drop low.length with
  | [] => (nat? low).map fun n => (n, some n)
  | ',' :: high =>
    if high.isEmpty then some (natOf low, none)
    else (nat? high).map fun n => (natOf low, some n)
  | _ => none

def operator? (op : Char) : Read Bool := do
  let r ← get
  match r.extended, r.rest with
  | true, c :: rest =>
    if c = op then
      set { r with rest := rest }
      return true
    else return false
  | false, '\\' :: c :: rest =>
    if c = op then
      set { r with rest := rest }
      return true
    else return false
  | _, _ => return false

def endsBranch (extended : Bool) (depth : Nat) : Chars → Bool
  | [] => true
  | '\\' :: c :: _ => !extended && (c == '|' || (c == ')' && 0 < depth))
  | c :: _ => extended && (c == '|' || (c == ')' && 0 < depth))

def repeated : Nat → Regex → Read Regex
  | 0, a => return a
  | n + 1, a => do
    let r ← get
    match r.rest with
    | '*' :: rest =>
      set { r with rest := rest }
      repeated n (.times a 0 none)
    | _ =>
      if ← operator? '+' then repeated n (.times a 1 none)
      else if ← operator? '?' then repeated n (.times a 0 (some 1))
      else if ← operator? '\x7b' then
        let s := (← get).rest
        let inside := s.takeWhile fun c => c != '\x7d' && c != '\\'
        let skipped := inside.length + if r.extended then 1 else 2
        match bounds? inside with
        | some (low, high) =>
          modify ({ · with rest := s.drop skipped })
          repeated n (.times a low high)
        | none => failure
      else return a

def bracket : Read Regex := do
  let r ← get
  let (negated, members) : Bool × Chars := match r.rest with
    | '^' :: members => (true, members)
    | members => (false, members)
  let marked : List Pattern.Marked := members.map fun c => (c, false)
  match Pattern.bracketSets true marked (members.length + 1) with
  | some (sets, rest) =>
    set { r with rest := rest.map Prod.fst }
    return .oneOf negated sets
  | none => failure

mutual

def alternatives : Nat → Nat → Read Regex
  | 0, _ => failure
  | n + 1, depth => do
    let first ← branch n depth true
    if ← operator? '|' then return .either first (← alternatives n depth)
    else return first

def branch : Nat → Nat → Bool → Read Regex
  | 0, _, _ => failure
  | n + 1, depth, isFirst => do
    let r ← get
    if endsBranch r.extended depth r.rest then return .empty
    let a ← atom n depth isFirst
    let isAnchor := match a with
      | .start => !r.extended
      | _ => false
    let a ← if isAnchor then pure a else repeated (r.rest.length + 1) a
    return .both a (← branch n depth isAnchor)

def atom : Nat → Nat → Bool → Read Regex
  | 0, _, _ => failure
  | n + 1, depth, isFirst => do
    if ← operator? '(' then
      let number := (← get).next
      modify ({ · with next := number + 1 })
      let a ← alternatives n (depth + 1)
      if ← operator? ')' then return .group number a else failure
    else
      let r ← get
      match r.rest with
      | [] => failure
      | '\\' :: c :: rest =>
        set { r with rest := rest }
        return escaped c
      | '[' :: rest =>
        set { r with rest := rest }
        bracket
      | c :: rest =>
        set { r with rest := rest }
        if c = '.' then return .any
        else if c = '^' ∧ (r.extended ∨ isFirst) then return .start
        else if c = '$' ∧ (r.extended ∨ endsBranch false depth rest) then return .stop
        else return .char c

end

def parse? (extended : Bool) (s : Chars) : Option Regex := do
  let (r, reading) ← (alternatives (4 * s.length + 4) 0).run ⟨s, 1, extended⟩
  if reading.rest.isEmpty then return r else failure

end Regex

end CompileFlags.Shell
