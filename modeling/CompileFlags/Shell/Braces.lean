import CompileFlags.Shell.Command

set_option autoImplicit false

namespace CompileFlags.Shell

namespace Braces

/-- A character outside quotes, or a part of a word that braces do not look into. -/
inductive Atom where
  | char (c : Char)
  | part (p : WordPart)

def atoms (w : Word) : List Atom :=
  w.flatMap fun
    | .text s false => s.map .char
    | p => [.part p]

def wordOf (as : List Atom) : Word :=
  Word.joined (as.map fun
    | .char c => .text [c] false
    | .part p => p)

def plainText? (as : List Atom) : Option Chars :=
  as.mapM fun
    | .char c => some c
    | .part _ => none

def items (depth : Nat) : List Atom → Option (List (List Atom) × List Atom)
  | [] => none
  | .char '\x7d' :: rest =>
    match depth with
    | 0 => some ([[]], rest)
    | depth + 1 => push (.char '\x7d') (items depth rest)
  | .char ',' :: rest =>
    if depth = 0 then (items depth rest).map fun (found, rest) => ([] :: found, rest)
    else push (.char ',') (items depth rest)
  | .char c :: rest => push (.char c) (items (if c = '\x7b' then depth + 1 else depth) rest)
  | a :: rest => push a (items depth rest)
where
  push (a : Atom) : Option (List (List Atom) × List Atom) → Option (List (List Atom) × List Atom)
    | some (first :: others, rest) => some ((a :: first) :: others, rest)
    | found => found

def int? (s : Chars) : Option Int :=
  match s with
  | '-' :: ds => (nat? ds).map fun n => -(n : Int)
  | ds => (nat? ds).map Int.ofNat

def numbersFrom (start stop step : Int) : List Int :=
  let count := (stop - start).natAbs / step.natAbs
  let step : Int := if start ≤ stop then step.natAbs else -step.natAbs
  (List.range (count + 1)).map fun (k : Nat) => start + step * (k : Int)

def dotted (s : Chars) : List Chars :=
  match s with
  | '.' :: '.' :: rest => [] :: dotted rest
  | c :: rest =>
    match dotted rest with
    | first :: others => (c :: first) :: others
    | [] => [[c]]
  | [] => [[]]

def range? (s : Chars) : Option (List Chars) := do
  let (a, b, step) ← match dotted s with
    | [a, b] => some (a, b, (1 : Int))
    | [a, b, step] => (int? step).map fun n => (a, b, if n = 0 then 1 else n)
    | _ => none
  match int? a, int? b, a, b with
  | some m, some n, _, _ =>
    let padded := [a, b].any fun s => s.head? = some '0' ∧ s.length > 1
    let width := if padded then max a.length b.length else 0
    return (numbersFrom m n step).map fun k =>
      let ds := natText k.natAbs
      let sign := if k < 0 then ['-'] else []
      sign ++ List.replicate (width - sign.length - ds.length) '0' ++ ds
  | none, none, [c], [d] =>
    if c.isAlpha ∧ d.isAlpha then
      return (numbersFrom c.toNat d.toNat step).map fun k => [Char.ofNat k.toNat]
    else none
  | _, _, _, _ => none

/-- The words of the first list or range in braces: what stands before it, its items, and what
stands behind it. -/
def group? (before : List Atom) : List Atom → Option (List Atom × List (List Atom) × List Atom)
  | [] => none
  | .char '\x7b' :: rest =>
    match items 0 rest with
    | some ([one], after) =>
      match (plainText? one).bind range? with
      | some members => some (before.reverse, members.map (·.map .char), after)
      | none => group? (.char '\x7b' :: before) rest
    | some (found, after) => some (before.reverse, found, after)
    | none => group? (.char '\x7b' :: before) rest
  | a :: rest => group? (a :: before) rest

def expandAtoms : Nat → List Atom → List (List Atom)
  | 0, as => [as]
  | n + 1, as =>
    match group? [] as with
    | none => [as]
    | some (before, found, after) =>
      let ends := expandAtoms n after
      (found.flatMap (expandAtoms n)).flatMap fun item => ends.map fun rest => before ++ item ++ rest

def expand (w : Word) : List Word :=
  let as := atoms w
  match group? [] as with
  | none => [w]
  | some _ => (expandAtoms (as.length + 1) as).map wordOf

end Braces

end CompileFlags.Shell
