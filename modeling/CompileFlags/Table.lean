import CompileFlags.Text.Columns

set_option autoImplicit false

namespace CompileFlags

structure Table where
  headers : List String
  rows : List (List String) := []
deriving DecidableEq

namespace Table

/-- The table with one more row. A row with another number of cells is left out. -/
def add (t : Table) (row : List String) : Table :=
  if row.length = t.headers.length then { t with rows := t.rows ++ [row] } else t

def flatten (cell : String) : List Char :=
  cell.toList.map fun c => if c = '\n' ∨ c = '\r' ∨ c = '\t' then ' ' else c

def cellWidth (cell : String) : Nat :=
  Text.columns (flatten cell)

def naturalWidths (t : Table) : List Nat :=
  t.rows.foldl (fun widths row => List.zipWith max widths (row.map cellWidth))
    (t.headers.map fun header => Text.columns header.toList)

def leastWidth : Nat := 8

def widest (widths : List Nat) : Nat :=
  widths.foldr max 0

def span (widths : List Nat) : Nat :=
  widths.foldr (· + ·) 0

@[simp] theorem span_cons (w : Nat) (widths : List Nat) :
    span (w :: widths) = w + span widths := rfl

def lowerLast (w : Nat) : List Nat → List Nat
  | [] => []
  | v :: vs => if v = w ∧ w ∉ vs then (v - 1) :: vs else v :: lowerLast w vs

theorem widest_mem {widths : List Nat} (h : 0 < widest widths) : widest widths ∈ widths := by
  induction widths with
  | nil => simp [widest] at h
  | cons v vs ih =>
    simp only [widest, List.foldr_cons] at h ih ⊢
    rcases Nat.le_total v (vs.foldr max 0) with hv | hv
    · rw [Nat.max_eq_right hv] at h ⊢
      exact List.mem_cons_of_mem v (ih h)
    · rw [Nat.max_eq_left hv]
      exact List.mem_cons_self

theorem span_lowerLast {w : Nat} {widths : List Nat} (hw : 0 < w) (h : w ∈ widths) :
    span (lowerLast w widths) + 1 = span widths := by
  induction widths with
  | nil => simp at h
  | cons v vs ih =>
    rw [lowerLast]
    split
    · next hv =>
      simp only [span_cons]
      omega
    · next hv =>
      have hm : w ∈ vs := by
        rcases List.mem_cons.1 h with rfl | hm
        · simpa using hv
        · exact hm
      have := ih hm
      simp only [span_cons]
      omega

/-- The widths shrunk until they take at most `room`, or until every column is small. -/
def fit (room : Nat) (widths : List Nat) : List Nat :=
  if span widths ≤ room ∨ widest widths ≤ leastWidth then widths
  else fit room (lowerLast (widest widths) widths)
termination_by span widths
decreasing_by
  next h =>
    have hw : 0 < widest widths := by simp only [leastWidth] at h; omega
    have := span_lowerLast hw (widest_mem hw)
    omega

def borderWidth (t : Table) : Nat :=
  1 + 3 * t.headers.length

def widths (t : Table) (total : Nat) : List Nat :=
  fit (total - t.borderWidth) t.naturalWidths

def boldOn : List Char :=
  ['\x1b', '[', '1', 'm']

def boldOff : List Char :=
  ['\x1b', '[', '0', 'm']

/-- Text inside an emphasis, which is taken up again wherever the text ends it. -/
def boldInside : List Char → List Char
  | [] => []
  | '\x1b' :: '[' :: '0' :: 'm' :: rest => boldOff ++ boldOn ++ boldInside rest
  | c :: rest => c :: boldInside rest

def bold (text : List Char) : List Char :=
  boldOn ++ boldInside text ++ boldOff

def border (left middle right : Char) (widths : List Nat) : List Char :=
  left :: [middle].intercalate (widths.map fun w => List.replicate (w + 2) '─') ++ [right]

def cellText (emphasize : List Char → List Char) (cell : String) (w : Nat) : List Char :=
  let text := Text.clip w (flatten cell)
  emphasize text ++ List.replicate (w - Text.columns text) ' '

def line (emphasize : List Char → List Char) (widths : List Nat) (cells : List String) :
    List Char :=
  '│' :: (List.zipWith (cellText emphasize) cells widths).flatMap fun text =>
    ' ' :: text ++ [' ', '│']

/-- The lines of a table on a terminal of `total` columns, with bold headers if `colored`. A table
without columns has none. -/
def lines (t : Table) (total : Nat) (colored : Bool) : List (List Char) :=
  if t.headers.isEmpty then []
  else
    let ws := t.widths total
    [border '┌' '┬' '┐' ws, line (if colored then bold else id) ws t.headers,
      border '├' '┼' '┤' ws] ++ t.rows.map (line id ws) ++ [border '└' '┴' '┘' ws]

def render (t : Table) (total : Nat) (colored : Bool) : List String :=
  (t.lines total colored).map String.ofList

theorem length_lines {t : Table} (h : t.headers ≠ []) (total : Nat) (colored : Bool) :
    (t.lines total colored).length = 4 + t.rows.length := by
  simp [lines, h]
  omega

end Table

end CompileFlags
