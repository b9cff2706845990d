import CompileFlags.Shell.Bytes

set_option autoImplicit false

namespace CompileFlags.Shell

/-- A class of characters. -/
inductive CharSet where
  | one (c : Char)
  | range (low high : Char)
  | named (name : String)
deriving DecidableEq

def isPunctuation (c : Char) : Bool :=
  '!' ≤ c && c ≤ '~' && !c.isAlphanum

def inClass (name : String) (c : Char) : Bool :=
  match name with
  | "alpha" => c.isAlpha
  | "digit" => c.isDigit
  | "alnum" => c.isAlphanum
  | "upper" => c.isUpper
  | "lower" => c.isLower
  | "space" => c == ' ' || ('\t' ≤ c && c ≤ '\r')
  | "blank" => isBlank c
  | "punct" => isPunctuation c
  | "cntrl" => c < ' ' || c == '\x7f'
  | "graph" => '!' ≤ c && c ≤ '~'
  | "print" => ' ' ≤ c && c ≤ '~'
  | "xdigit" => c.isDigit || ('a' ≤ c && c ≤ 'f') || ('A' ≤ c && c ≤ 'F')
  | _ => false

def CharSet.has (s : CharSet) (c : Char) : Bool :=
  match s with
  | .one d => c == d
  | .range low high => low ≤ c && c ≤ high
  | .named name => inClass name c

/-- An item of a pattern. A group lets one of its alternatives match once, at most once, any number of
times, at least once, or not at all, by its sign. -/
inductive PatternItem where
  | char (c : Char)
  | any
  | many
  | oneOf (negated : Bool) (sets : List CharSet)
  | group (sign : Char) (alternatives : List (List PatternItem))

abbrev Pattern := List PatternItem

namespace Pattern

abbrev Marked := Char × Bool

def className? (s : List Marked) : Option (String × List Marked) :=
  match s with
  | ('[', false) :: (':', false) :: rest =>
    let name := (rest.map (·.1)).takeWhile Char.isAlpha
    match rest.drop name.length with
    | (':', false) :: (']', false) :: rest => some (String.ofList name, rest)
    | _ => none
  | _ => none

def bracketSets (isFirst : Bool) : List Marked → Nat → Option (List CharSet × List Marked)
  | _, 0 => none
  | s, n + 1 =>
    match className? s with
    | some (name, rest) =>
      (bracketSets false rest n).map fun (sets, rest) => (.named name :: sets, rest)
    | none =>
      match s with
      | [] => none
      | (']', false) :: rest =>
        if isFirst then
          (bracketSets false rest n).map fun (sets, rest) => (.one ']' :: sets, rest)
        else some ([], rest)
      | (c, _) :: ('-', false) :: (d, quoted) :: rest =>
        if d = ']' ∧ !quoted then
          (bracketSets false (('-', true) :: (d, quoted) :: rest) n).map fun (sets, rest) =>
            (.one c :: sets, rest)
        else
          (bracketSets false rest n).map fun (sets, rest) => (.range c d :: sets, rest)
      | (c, _) :: rest =>
        (bracketSets false rest n).map fun (sets, rest) => (.one c :: sets, rest)

/-- What patterns have beyond the plain ones: a caret that negates a bracket expression like an
exclamation mark, and groups. -/
structure Style where
  caret : Bool := false
  groups : Bool := false

def isGroupSign (c : Char) : Bool :=
  c == '?' || c == '*' || c == '+' || c == '@' || c == '!'

def alternatives (depth : Nat) : List Marked → Option (List (List Marked) × List Marked)
  | [] => none
  | (c, quoted) :: rest =>
    let push (found : Option (List (List Marked) × List Marked)) :=
      found.map fun (parts, rest) =>
        (((c, quoted) :: parts.headD []) :: parts.drop 1, rest)
    if quoted then push (alternatives depth rest)
    else if c = '(' then push (alternatives (depth + 1) rest)
    else if c = ')' then
      if depth = 0 then some ([[]], rest) else push (alternatives (depth - 1) rest)
    else if c = '|' ∧ depth = 0 then
      (alternatives depth rest).map fun (parts, rest) => ([] :: parts, rest)
    else push (alternatives depth rest)

def itemsOf (style : Style) : Nat → List Marked → Pattern
  | 0, _ => []
  | _, [] => []
  | n + 1, (c, true) :: rest => .char c :: itemsOf style n rest
  | n + 1, (c, false) :: rest =>
    let found := match style.groups && isGroupSign c, rest with
      | true, ('(', false) :: inside => alternatives 0 inside
      | _, _ => none
    match found with
    | some (parts, rest) => .group c (parts.map (itemsOf style n)) :: itemsOf style n rest
    | none =>
      if c = '*' then .many :: itemsOf style n rest
      else if c = '?' then .any :: itemsOf style n rest
      else if c = '[' then
        let (negated, members) := match rest with
          | ('!', false) :: members => (true, members)
          | ('^', false) :: members => if style.caret then (true, members) else (false, rest)
          | _ => (false, rest)
        match bracketSets true members (members.length + 1) with
        | some (sets, rest) => .oneOf negated sets :: itemsOf style n rest
        | none => .char '[' :: itemsOf style n rest
      else .char c :: itemsOf style n rest

def ofMarked (style : Style) (s : List Marked) : Pattern :=
  itemsOf style s.length s

end Pattern

def PatternItem.accepts (c : Char) : PatternItem → Bool
  | .char d => c == d
  | .any => true
  | .oneOf negated sets => sets.any (·.has c) != negated
  | .many | .group .. => false

mutual

def PatternItem.size : PatternItem → Nat
  | .group _ alternatives => sizeOfAll alternatives + 1
  | _ => 1

def sizeOfItems : List PatternItem → Nat
  | [] => 1
  | item :: rest => item.size + sizeOfItems rest

def sizeOfAll : List (List PatternItem) → Nat
  | [] => 0
  | p :: rest => sizeOfItems p + sizeOfAll rest

end

namespace Pattern

/-- Whether a pattern matches a whole text. Each step leaves out an item or a character, so the number
of both bounds the steps. -/
def matchesWithin : Nat → Pattern → Chars → Bool
  | 0, _, _ => false
  | _ + 1, [], s => s.isEmpty
  | n + 1, .many :: p, s =>
    matchesWithin n p s || (!s.isEmpty && matchesWithin n (.many :: p) (s.drop 1))
  | n + 1, .group sign alternatives :: p, s =>
    let start (k : Nat) : Bool := alternatives.any fun a => matchesWithin n a (s.take k)
    let lengths := List.range (s.length + 1)
    match sign with
    | '@' => lengths.any fun k => start k && matchesWithin n p (s.drop k)
    | '?' =>
      matchesWithin n p s || lengths.any fun k => start k && matchesWithin n p (s.drop k)
    | '!' => lengths.any fun k => !start k && matchesWithin n p (s.drop k)
    | '*' =>
      matchesWithin n p s || lengths.any fun k =>
        0 < k && start k && matchesWithin n (.group '*' alternatives :: p) (s.drop k)
    | _ =>
      lengths.any fun k =>
        start k && (matchesWithin n p (s.drop k) ||
          (0 < k && matchesWithin n (.group '*' alternatives :: p) (s.drop k)))
  | _ + 1, _ :: _, [] => false
  | n + 1, item :: p, c :: s => item.accepts c && matchesWithin n p s

def isMatch (p : Pattern) (s : Chars) : Bool :=
  matchesWithin (sizeOfItems p + s.length + 1) p s

def lengths (s : Chars) : List Nat :=
  List.range (s.length + 1)

def cutStart (p : Pattern) (longest : Bool) (s : Chars) : Chars :=
  let ns := if longest then (lengths s).reverse else lengths s
  match ns.find? fun n => p.isMatch (s.take n) with
  | some n => s.drop n
  | none => s

def cutEnd (p : Pattern) (longest : Bool) (s : Chars) : Chars :=
  let ns := if longest then lengths s else (lengths s).reverse
  match ns.find? fun n => p.isMatch (s.drop n) with
  | some n => s.take n
  | none => s

def longestStart? (p : Pattern) (s : Chars) : Option Nat :=
  (lengths s).reverse.find? fun n => p.isMatch (s.take n)

def replaceIn (p : Pattern) (new : Chars) (all : Bool) : Nat → Chars → Chars
  | 0, s => s
  | n + 1, s =>
    match p.longestStart? s, s with
    | some (k + 1), _ =>
      let rest := s.drop (k + 1)
      new ++ if all then replaceIn p new all n rest else rest
    | _, c :: rest => c :: replaceIn p new all n rest
    | _, [] => []

@[simp] theorem isMatch_nil (s : Chars) : isMatch [] s = s.isEmpty := by
  rw [isMatch, matchesWithin]

end Pattern

end CompileFlags.Shell
