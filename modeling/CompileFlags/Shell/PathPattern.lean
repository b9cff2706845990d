import CompileFlags.Disk.World
import CompileFlags.Shell.Pattern

set_option autoImplicit false

namespace CompileFlags.Shell

open Disk

/-- How paths are found: by which patterns, whether names with a dot in front and two stars are
special, and whether a field that matches nothing vanishes. -/
structure PathStyle extends Pattern.Style where
  hidden : Bool := false
  deep : Bool := false
  vanishes : Bool := false

namespace PathPattern

def hasWildcard (style : PathStyle) : List Pattern.Marked → Bool
  | [] => false
  | (c, quoted) :: rest =>
    (!quoted && (c == '*' || c == '?' || c == '[' ||
      (style.groups && Pattern.isGroupSign c && rest.head? == some ('(', false)))) ||
    hasWildcard style rest

def names : List Pattern.Marked → List (List Pattern.Marked)
  | [] => [[]]
  | (c, quoted) :: rest =>
    if c = '/' then [] :: names rest
    else match names rest with
      | first :: others => ((c, quoted) :: first) :: others
      | [] => [[(c, quoted)]]

def byBytes (a b : Chars) : Bool := !b.lex a

def entries (w : World) (dir : Chars) : List (Chars × Node) :=
  match w.node .follow ⟨textOf (if dir.isEmpty then ['.'] else dir)⟩ with
  | .ok n =>
    (n.entries.map fun e => (charsOf e.1, e.2)).mergeSort fun a b => byBytes a.1 b.1
  | .error _ => []

def listing (w : World) (dir : Chars) : List Chars :=
  (entries w dir).map (·.1)

def hasNode (w : World) (path : Chars) : Bool :=
  (w.node .keep ⟨textOf path⟩).isOk

def step (w : World) (style : PathStyle) (dir : Chars) (name : List Pattern.Marked) : List Chars :=
  let text := name.map (·.1)
  if hasWildcard style name then
    let pattern := Pattern.ofMarked style.toStyle name
    let named := text.head? = some '.'
    let dots := if named && !style.caret then [['.'], ['.', '.']] else []
    ((dots ++ listing w dir).filter fun entry =>
      (named || style.hidden || entry.head? != some '.') && pattern.isMatch entry).map (dir ++ ·)
  else [dir ++ text]

/-- The paths below a folder, or only those of folders; the depth bounds the way down. -/
def below (w : World) (style : PathStyle) (foldersOnly : Bool) : Nat → Chars → List Chars
  | 0, _ => []
  | depth + 1, dir =>
    (entries w dir).flatMap fun (name, n) =>
      if name.head? = some '.' ∧ !style.hidden then []
      else
        let path := dir ++ name
        (if n.isFolder ∨ !foldersOnly then [path] else []) ++
          if n.isFolder then below w style foldersOnly depth (path ++ ['/']) else []

def walk (w : World) (style : PathStyle) : List (List Pattern.Marked) → Chars → List Chars
  | [], _ => []
  | [('*', false), ('*', false)] :: rest, dir =>
    if style.deep then
      let own := if dir.isEmpty then [] else [dir]
      if rest.isEmpty then own ++ below w style false 64 dir
      else (dir :: (below w style true 64 dir).map (· ++ ['/'])).flatMap (walk w style rest)
    else if rest.isEmpty then (step w style dir [('*', false)]).filter (hasNode w)
    else (step w style dir [('*', false)]).flatMap fun p => walk w style rest (p ++ ['/'])
  | [last], dir => (step w style dir last).filter (hasNode w)
  | name :: rest, dir => (step w style dir name).flatMap fun p => walk w style rest (p ++ ['/'])

def expand (w : World) (style : PathStyle) (field : List Pattern.Marked) : List Chars :=
  let text := field.map (·.1)
  if hasWildcard style field then
    match walk w style (names field) [] with
    | [] => if style.vanishes then [] else [text]
    | found => if style.deep then found.mergeSort byBytes else found
  else [text]

end PathPattern

end CompileFlags.Shell
