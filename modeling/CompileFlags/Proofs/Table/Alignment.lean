import CompileFlags.Proofs.Table.Emphasis
import CompileFlags.Proofs.Table.Levels
import CompileFlags.Proofs.Text.Clipping
import CompileFlags.Proofs.Text.Printable
import Mathlib.Data.List.Forall2

set_option autoImplicit false

/-!
# Aligned tables

A column is measured by its texts as they are, and filled with texts that are clipped and perhaps
emphasized. All lines of a table are still of one width, since a column that gave way is never
narrower than the dots.
-/

namespace CompileFlags.Table

open Text

variable {b s : List Char} {n w : Nat} {emphasize : List Char → List Char} {ws : List Nat}
  {cells : List String}

/-- A text that takes `n` columns in front of a line that it is parted from. -/
def Spans (s : List Char) (n : Nat) : Prop :=
  ∀ b k, Harmless b → scan b = (k, Ahead.free) → (scan (s ++ b)).1 = n + k

theorem spans_of_closed (h : Closed [' '] s) : Spans s (columns s) := by
  intro b k hb hfree
  rw [h.scan_append (List.cons_ne_nil _ _) hb hfree, shift, columns_eq_scan]

theorem spans_bold (h : Closed [' '] s) : Spans (bold s) (columns s) := by
  intro b k hb hfree
  have hoff : scan (boldOff ++ b) = (k, Ahead.free) := by rw [scan_boldOff, hfree]
  have hharmless : Harmless (boldOff ++ b) := harmless_cons.2 rfl
  rw [bold, List.append_assoc, List.append_assoc, scan_boldOn,
    scan_boldInside h (List.cons_ne_nil _ _) hharmless hoff, shift, columns_eq_scan]

theorem scan_space (b : List Char) : scan (' ' :: b) = ((scan b).1 + 1, Ahead.free) := by
  rw [scan_of_not_isEscape rfl, measureStep_space]

theorem scan_spaces (m : Nat) {k : Nat} (hfree : scan b = (k, Ahead.free)) :
    scan (List.replicate m ' ' ++ b) = (k + m, Ahead.free) := by
  induction m with
  | zero => exact hfree
  | succ m ih => rw [List.replicate_succ, List.cons_append, scan_space, ih, Nat.add_assoc]

theorem harmless_spaces (m : Nat) (hb : Harmless b) : Harmless (List.replicate m ' ' ++ b) := by
  cases m with
  | zero => exact hb
  | succ m => exact harmless_cons.2 rfl

theorem Spans.spaces (h : Spans s n) (m : Nat) : Spans (s ++ List.replicate m ' ') (n + m) := by
  intro b k hb hfree
  rw [List.append_assoc, h _ (k + m) (harmless_spaces m hb) (scan_spaces m hfree)]
  omega

def framed (texts : List (List Char)) : List Char :=
  texts.flatMap fun text => ' ' :: text ++ [' ', '│']

theorem line_eq (emphasize : List Char → List Char) (ws : List Nat) (cells : List String) :
    line emphasize ws cells = '│' :: framed (List.zipWith (cellText emphasize) cells ws) :=
  rfl

theorem rigid_bar : Rigid '│' := by
  decide +kernel

theorem scan_framed {texts : List (List Char)} {ws : List Nat} (h : List.Forall₂ Spans texts ws) :
    scan (framed texts) = (3 * ws.length + span ws, Ahead.free) := by
  induction h with
  | nil => rfl
  | @cons text w texts ws htext _ ih =>
    have hbar : scan ('│' :: framed texts) = (3 * ws.length + span ws + 1, Ahead.free) := by
      rw [scan_of_not_isEscape rfl, ih, rigid_bar.measureStep]
    have hrest : scan (' ' :: '│' :: framed texts) = (3 * ws.length + span ws + 2, Ahead.free) := by
      rw [scan_space, hbar]
    have hfirst : framed (text :: texts) = ' ' :: (text ++ ' ' :: '│' :: framed texts) := by
      simp [framed]
    rw [hfirst, scan_space, htext _ _ (harmless_cons.2 rfl) hrest, List.length_cons, span_cons]
    congr 1
    omega

theorem columns_framed {texts : List (List Char)} {ws : List Nat}
    (h : List.Forall₂ Spans texts ws) :
    columns ('│' :: framed texts) = 1 + 3 * ws.length + span ws := by
  rw [columns_eq_scan, scan_of_not_isEscape rfl, scan_framed h, rigid_bar.measureStep]
  omega

def borderChars : List Char :=
  ['─', '┌', '┬', '┐', '├', '┼', '┤', '└', '┴', '┘']

theorem rigid_of_mem_borderChars : ∀ c ∈ borderChars, Rigid c ∧ isEscape c = false := by
  have hall : (borderChars.all fun c => decide (Rigid c) && !isEscape c) = true := by
    decide +kernel
  simpa [List.all_eq_true] using hall

theorem length_intercalate (m : Char) (hne : ws ≠ []) :
    ([m].intercalate (ws.map fun w => List.replicate (w + 2) '─')).length + 1 =
      3 * ws.length + span ws := by
  induction ws with
  | nil => exact absurd rfl hne
  | cons w ws ih =>
    cases ws with
    | nil =>
      simp [span]
      omega
    | cons v ws =>
      have htail := ih (List.cons_ne_nil v ws)
      simp only [List.map_cons, List.length_cons, span_cons] at htail ⊢
      rw [List.intercalate_cons_cons, List.length_append, List.length_append, List.length_replicate]
      simp only [List.length_cons, List.length_nil]
      omega

theorem mem_intercalate {m c : Char}
    (h : c ∈ [m].intercalate (ws.map fun w => List.replicate (w + 2) '─')) : c = m ∨ c = '─' := by
  induction ws with
  | nil => simp [List.intercalate] at h
  | cons w ws ih =>
    cases ws with
    | nil =>
      simp [List.intercalate] at h
      exact .inr h
    | cons v ws =>
      simp only [List.map_cons] at h ih
      rw [List.intercalate_cons_cons, List.mem_append, List.mem_append, List.mem_singleton] at h
      rcases h with (h | h) | h
      · exact .inr (List.eq_of_mem_replicate h)
      · exact .inl h
      · exact ih h

theorem mem_border {left middle right c : Char} (h : c ∈ border left middle right ws) :
    c = left ∨ c = middle ∨ c = right ∨ c = '─' := by
  rw [border, List.cons_append, List.mem_cons, List.mem_append, List.mem_singleton] at h
  rcases h with h | h | h
  · exact .inl h
  · exact (mem_intercalate h).elim (fun h => .inr (.inl h)) fun h => .inr (.inr (.inr h))
  · exact .inr (.inr (.inl h))

theorem columns_border {left middle right : Char} (hne : ws ≠ [])
    (h : ∀ c ∈ [left, middle, right, '─'], c ∈ borderChars) :
    columns (border left middle right ws) = 1 + 3 * ws.length + span ws := by
  have hrigid : ∀ c ∈ border left middle right ws, Rigid c ∧ isEscape c = false :=
    fun c hc => rigid_of_mem_borderChars c (h c (by simpa using mem_border hc))
  have hscan := scan_of_rigid hrigid 0 scan_nil
  have hlength := length_intercalate middle hne
  rw [List.append_nil] at hscan
  rw [columns_eq_scan, hscan, border]
  simp only [List.length_append, List.length_cons, List.length_nil] at hlength ⊢
  omega

/-- What a terminal is relied on for: a space behind a text takes a column of its own, and a text
clipped to a width that has room for the dots keeps to it. -/
structure Measured (text : List Char) : Prop where
  space : columns (text ++ [' ']) = columns text + 1
  clip_le : ∀ w, 3 ≤ w → columns (clip w text) ≤ w

theorem measured_iff {text : List Char} : Measured text ↔
    columns (text ++ [' ']) = columns text + 1 ∧
      ∀ w < columns text, 3 ≤ w → columns (clip w text) ≤ w := by
  refine ⟨fun h => ⟨h.space, fun w _ => h.clip_le w⟩, fun h => ⟨h.1, fun w hw => ?_⟩⟩
  by_cases hfits : columns text ≤ w
  · rwa [clip_of_columns_le hfits]
  · exact h.2 w (Nat.lt_of_not_le hfits) hw

instance (text : List Char) : Decidable (Measured text) :=
  decidable_of_iff' _ measured_iff

theorem measured_of_isPrintable {text : List Char} (h : ∀ c ∈ text, IsPrintable c) :
    Measured text := by
  refine ⟨?_, fun w => columns_clip_of_isPrintable h⟩
  have hspace : ∀ c ∈ text ++ [' '], IsPrintable c := by
    intro c hc
    rcases List.mem_append.1 hc with hc | hc
    · exact h c hc
    · obtain rfl := List.mem_singleton.1 hc
      decide
  rw [columns_of_isPrintable hspace, columns_of_isPrintable h, List.length_append,
    List.length_singleton]

/-- How a text shows in `w` columns: in full where it fits, or else a start of it with dots and the
escape sequences of the rest. -/
structure FitsAs (w : Nat) (s text : List Char) : Prop where
  columns_le : columns text ≤ w
  full : columns s ≤ w → text = s
  cut : w < columns s →
    ∃ front rest, s = front ++ rest ∧ text = front ++ ['.', '.', '.'] ++ codes rest

/-- A text as it is, or between the sequences for bold and plain text, with both of them for each
one of the latter inside. -/
inductive Styled : Bool → List Char → List Char → Prop where
  | plain (text : List Char) : Styled false text text
  | bold (pieces : List (List Char)) (h : ∀ piece ∈ pieces, ¬ "\x1b[0m".toList <:+: piece) :
      Styled true ("\x1b[0m".toList.intercalate pieces)
        ("\x1b[1m".toList ++ "\x1b[0m\x1b[1m".toList.intercalate pieces ++ "\x1b[0m".toList)

def ShowsCell (colored : Bool) (cell : String) (w : Nat) (shown : List Char) : Prop :=
  ∃ text styled, FitsAs w (oneLine cell) text ∧ Styled colored text styled ∧
    shown = styled ++ List.replicate (w - columns text) ' '

theorem styled_emphasize (colored : Bool) (text : List Char) :
    Styled colored text ((if colored then bold else id) text) := by
  cases colored with
  | false => exact .plain text
  | true =>
    obtain ⟨first, rest, hwhole, htext, hinside⟩ := exists_pieces text
    have hbold : bold text = boldOn ++ (boldOff ++ boldOn).intercalate (first :: rest) ++ boldOff := by
      rw [bold, hinside]
    rw [if_pos rfl, hbold, htext]
    exact .bold (first :: rest) hwhole

theorem cellText_eq (emphasize : List Char → List Char) (cell : String) (w : Nat) :
    cellText emphasize cell w = emphasize (clip w (oneLine cell)) ++
      List.replicate (w - columns (clip w (oneLine cell))) ' ' := by
  simp only [cellText, flatten_eq]

theorem fitsAs_clip (h : Closed [' '] s) (hw : columns (clip w s) ≤ w) : FitsAs w s (clip w s) := by
  refine ⟨hw, clip_of_columns_le, fun hwide => ?_⟩
  obtain ⟨front, rest, hcut⟩ := h.isCut_clip hwide
  exact ⟨front, rest, hcut.eq_append, hcut.clipped_eq⟩

theorem spans_cellText {cell : String} (hclosed : Closed [' '] (oneLine cell))
    (hw : columns (clip w (oneLine cell)) ≤ w)
    (hemphasize : ∀ s, Closed [' '] s → Spans (emphasize s) (columns s)) :
    Spans (cellText emphasize cell w) w := by
  have hspans := (hemphasize _ (hclosed.clip w)).spaces (w - columns (clip w (oneLine cell)))
  rwa [Nat.add_sub_cancel' hw, ← cellText_eq] at hspans

/-- A text in a column has room there once it is clipped: either it fits, or the column gave way and
is no less than eight wide. -/
theorem columns_clip_le {t : Table} (hrows : ∀ row ∈ t.rows, row.length = t.headers.length)
    {total i : Nat} {text : List Char} (htext : columns text ∈ t.columnWidths i)
    (hw : (t.widths total)[i]? = some w) (h : Measured text) : columns (clip w text) ≤ w := by
  obtain ⟨n, hn⟩ : ∃ n, (t.columnWidths i).max? = some n := by
    cases hmax : (t.columnWidths i).max? with
    | none =>
      rw [List.max?_eq_none_iff.1 hmax] at htext
      cases htext
    | some n => exact ⟨n, rfl⟩
  have hle : columns text ≤ n := (List.max?_eq_some_iff.1 hn).2 _ htext
  obtain ⟨L, hL, hcut⟩ := exists_cutAt (total - t.borderWidth) t.naturalWidths
  have hbounds := hcut.levelled.bounds hL ((getElem?_naturalWidths hrows i).trans hn) hw
  by_cases hfits : columns text ≤ w
  · rwa [clip_of_columns_le hfits]
  · exact h.clip_le w (by omega)

def ShowsRow (colored : Bool) (ws : List Nat) (cells : List String) (l : List Char) : Prop :=
  cells.length = ws.length ∧ ∃ shown, l = '│' :: framed shown ∧
    List.Forall₂ (fun place text => ShowsCell colored place.1 place.2 text) (cells.zip ws) shown

def HasRoom (ws : List Nat) (cells : List String) : Prop :=
  ∀ place ∈ cells.zip ws,
    Closed [' '] (oneLine place.1) ∧ columns (clip place.2 (oneLine place.1)) ≤ place.2

theorem line_eq_map (emphasize : List Char → List Char) (ws : List Nat) (cells : List String) :
    line emphasize ws cells =
      '│' :: framed ((cells.zip ws).map fun place => cellText emphasize place.1 place.2) := by
  rw [line_eq, ← List.map_uncurry_zip_eq_zipWith]
  rfl

theorem showsRow_line {colored : Bool} (hstyle : ∀ text, Styled colored text (emphasize text))
    (hlength : cells.length = ws.length) (h : HasRoom ws cells) :
    ShowsRow colored ws cells (line emphasize ws cells) := by
  refine ⟨hlength, _, line_eq_map .., ?_⟩
  rw [List.forall₂_map_right_iff, List.forall₂_same]
  intro place hplace
  obtain ⟨hclosed, hle⟩ := h place hplace
  exact ⟨_, _, fitsAs_clip hclosed hle, hstyle _, cellText_eq ..⟩

theorem forall₂_spans (hlength : cells.length = ws.length) (h : HasRoom ws cells)
    (hemphasize : ∀ s, Closed [' '] s → Spans (emphasize s) (columns s)) :
    List.Forall₂ Spans (List.zipWith (cellText emphasize) cells ws) ws := by
  induction ws generalizing cells with
  | nil => rw [List.zipWith_nil_right]; exact .nil
  | cons w ws ih =>
    cases cells with
    | nil => cases hlength
    | cons cell cells =>
      rw [HasRoom, List.zip_cons_cons, List.forall_mem_cons] at h
      exact .cons (spans_cellText h.1.1 h.1.2 hemphasize) (ih (Nat.succ.inj hlength) h.2)

theorem columns_line (hlength : cells.length = ws.length) (h : HasRoom ws cells)
    (hemphasize : ∀ s, Closed [' '] s → Spans (emphasize s) (columns s)) :
    columns (line emphasize ws cells) = 1 + 3 * ws.length + span ws := by
  rw [line_eq, columns_framed (forall₂_spans hlength h hemphasize)]

theorem newline_not_mem_oneLine (cell : String) : '\n' ∉ oneLine cell := by
  rw [oneLine, List.mem_map]
  rintro ⟨c, -, hc⟩
  split at hc
  · exact absurd hc (by decide)
  · next hkept => exact hkept (by simp [hc])

theorem mem_boldInside {c : Char} (h : c ∈ boldInside s) : c ∈ s ∨ c ∈ boldOn := by
  fun_induction boldInside s with
  | case1 => exact .inl h
  | case2 rest ih =>
    rw [List.mem_append, List.mem_append] at h
    rcases h with (hoff | hon) | hinside
    · exact .inl (List.mem_append_left rest hoff)
    · exact .inr hon
    · exact (ih hinside).imp_left fun hrest => List.mem_append_right boldOff hrest
  | case3 d rest _ ih =>
    rcases List.mem_cons.1 h with rfl | h
    · exact .inl List.mem_cons_self
    · exact (ih h).imp_left (List.mem_cons_of_mem d)

theorem FitsAs.mem {c : Char} {text : List Char} (h : FitsAs w s text) (hc : c ∈ text) :
    c ∈ s ∨ c = '.' := by
  by_cases hfits : columns s ≤ w
  · rw [h.full hfits] at hc
    exact .inl hc
  · obtain ⟨front, rest, rfl, rfl⟩ := h.cut (Nat.lt_of_not_le hfits)
    rw [List.mem_append, List.mem_append] at hc
    rw [List.mem_append]
    rcases hc with (hc | hc) | hc
    · exact .inl (.inl hc)
    · exact .inr (List.eq_of_mem_replicate (n := 3) hc)
    · exact .inl (.inr ((codes_sublist rest).subset hc))

theorem newline_not_mem_bold {text : List Char} (h : '\n' ∉ text) : '\n' ∉ bold text := by
  rw [bold, List.mem_append, List.mem_append]
  rintro ((hon | hinside) | hoff)
  · exact absurd hon (by decide)
  · exact (mem_boldInside hinside).elim h (by decide)
  · exact absurd hoff (by decide)

theorem newline_not_mem_cellText {cell : String} (hclosed : Closed [' '] (oneLine cell))
    (hw : columns (clip w (oneLine cell)) ≤ w)
    (hemphasize : ∀ text, '\n' ∉ text → '\n' ∉ emphasize text) :
    '\n' ∉ cellText emphasize cell w := by
  have htext : '\n' ∉ clip w (oneLine cell) := by
    intro hmem
    rcases (fitsAs_clip hclosed hw).mem hmem with hcell | hdot
    · exact newline_not_mem_oneLine cell hcell
    · exact absurd hdot (by decide)
  rw [cellText_eq, List.mem_append]
  rintro (hmem | hmem)
  · exact hemphasize _ htext hmem
  · exact absurd (List.eq_of_mem_replicate hmem) (by decide)

theorem newline_not_mem_line (h : HasRoom ws cells)
    (hemphasize : ∀ text, '\n' ∉ text → '\n' ∉ emphasize text) :
    '\n' ∉ line emphasize ws cells := by
  rw [line_eq_map, framed, List.mem_cons, List.mem_flatMap]
  rintro (hbar | ⟨text, htext, hmem⟩)
  · exact absurd hbar (by decide)
  · obtain ⟨place, hplace, rfl⟩ := List.mem_map.1 htext
    have hkept := newline_not_mem_cellText (h place hplace).1 (h place hplace).2 hemphasize
    simp [hkept] at hmem

theorem newline_not_mem_border {left middle right : Char}
    (h : ∀ c ∈ [left, middle, right, '─'], c ∈ borderChars) :
    '\n' ∉ border left middle right ws :=
  fun hmem => absurd (h '\n' (by simpa using mem_border hmem)) (by decide)

theorem length_naturalWidths {t : Table} (hrows : ∀ row ∈ t.rows, row.length = t.headers.length) :
    t.naturalWidths.length = t.headers.length := by
  suffices hfold : ∀ (rows : List (List String)) (widths : List Nat),
      (∀ row ∈ rows, row.length = widths.length) →
      (rows.foldl (fun widths row => List.zipWith max widths (row.map cellWidth)) widths).length =
        widths.length by
    rw [naturalWidths, hfold t.rows _ (by simpa using hrows), List.length_map]
  intro rows
  induction rows with
  | nil => exact fun widths _ => rfl
  | cons row rows ih =>
    intro widths hall
    rw [List.forall_mem_cons] at hall
    have hlength : (List.zipWith max widths (row.map cellWidth)).length = widths.length := by
      simp [hall.1]
    rw [List.foldl_cons, ih _ (by rw [hlength]; exact hall.2), hlength]

theorem length_widths {t : Table} (hrows : ∀ row ∈ t.rows, row.length = t.headers.length)
    (total : Nat) : (t.widths total).length = t.headers.length := by
  obtain ⟨L, -, hcut⟩ := exists_cutAt (total - t.borderWidth) t.naturalWidths
  rw [widths, hcut.length_eq, length_naturalWidths hrows]

theorem hasRoom_of_columnWidths {t : Table}
    (hrows : ∀ row ∈ t.rows, row.length = t.headers.length) (total : Nat)
    (hmeasured : ∀ cell ∈ cells, Measured (oneLine cell))
    (hcolumn : ∀ (i : Nat) (cell : String), cells[i]? = some cell →
      columns (oneLine cell) ∈ t.columnWidths i) : HasRoom (t.widths total) cells := by
  rintro ⟨cell, w⟩ hplace
  obtain ⟨i, hi⟩ := List.mem_iff_getElem?.1 hplace
  obtain ⟨hcell, hw⟩ := List.getElem?_zip_eq_some.1 hi
  have hm := hmeasured cell (List.mem_of_getElem? hcell)
  exact ⟨closed_of_columns hm.space, columns_clip_le hrows (hcolumn i cell hcell) hw hm⟩

/-- The lines of a table: borders, the headers, and the rows in their order, all of one width. -/
structure Aligned (headers : List String) (rows : List (List String)) (ws : List Nat)
    (colored : Bool) (lines : List String) : Prop where
  shape : ∃ head body,
    lines = ([border '┌' '┬' '┐' ws, head, border '├' '┼' '┤' ws] ++ body ++
      [border '└' '┴' '┘' ws]).map String.ofList ∧
    ShowsRow colored ws headers head ∧ List.Forall₂ (ShowsRow false ws) rows body
  length_eq : lines.length = 4 + rows.length
  columns_eq : ∀ l ∈ lines, columns l.toList = 1 + 3 * headers.length + span ws
  one_line : ∀ l ∈ lines, '\n' ∉ l.toList

theorem spans_emphasize (colored : Bool) :
    ∀ s, Closed [' '] s → Spans ((if colored then bold else id) s) (columns s) := by
  intro s h
  cases colored with
  | false => exact spans_of_closed h
  | true => exact spans_bold h

theorem newline_not_mem_emphasize (colored : Bool) :
    ∀ text, '\n' ∉ text → '\n' ∉ (if colored then bold else id) text := by
  intro text h
  cases colored with
  | false => exact h
  | true => exact newline_not_mem_bold h

theorem mem_lines {t : Table} (hne : t.headers ≠ []) {total : Nat} {colored : Bool} {l : List Char}
    (h : l ∈ t.lines total colored) :
    (∃ left middle right, (∀ c ∈ [left, middle, right, '─'], c ∈ borderChars) ∧
      l = border left middle right (t.widths total)) ∨
    l = line (if colored then bold else id) (t.widths total) t.headers ∨
    ∃ row ∈ t.rows, l = line id (t.widths total) row := by
  rw [lines, if_neg (by simpa using hne)] at h
  simp only [List.mem_append, List.mem_cons, List.not_mem_nil, or_false, List.mem_map] at h
  rcases h with ((rfl | rfl | rfl) | ⟨row, hrow, rfl⟩) | rfl
  · exact .inl ⟨_, _, _, by simp [borderChars], rfl⟩
  · exact .inr (.inl rfl)
  · exact .inl ⟨_, _, _, by simp [borderChars], rfl⟩
  · exact .inr (.inr ⟨row, hrow, rfl⟩)
  · exact .inl ⟨_, _, _, by simp [borderChars], rfl⟩

theorem aligned_render {t : Table} (hne : t.headers ≠ [])
    (hrows : ∀ row ∈ t.rows, row.length = t.headers.length) {total : Nat}
    (hheaders : HasRoom (t.widths total) t.headers)
    (hcells : ∀ row ∈ t.rows, HasRoom (t.widths total) row) (colored : Bool) :
    Aligned t.headers t.rows (t.widths total) colored (t.render total colored) := by
  have hlength : t.headers.length = (t.widths total).length := (length_widths hrows total).symm
  have hwidths : t.widths total ≠ [] := by
    rw [← List.length_pos_iff, ← hlength]
    exact List.length_pos_iff.2 hne
  have hhead : ShowsRow colored (t.widths total) t.headers
      (line (if colored then bold else id) (t.widths total) t.headers) :=
    showsRow_line (styled_emphasize colored) hlength hheaders
  have hrow : ∀ row ∈ t.rows, ShowsRow false (t.widths total) row (line id (t.widths total) row) :=
    fun row hmem => showsRow_line .plain ((hrows row hmem).trans hlength) (hcells row hmem)
  have hlines : ∀ l ∈ t.lines total colored,
      columns l = 1 + 3 * t.headers.length + span (t.widths total) ∧ '\n' ∉ l := by
    intro l hl
    rw [hlength]
    rcases mem_lines hne hl with ⟨left, middle, right, hchars, rfl⟩ | rfl | ⟨row, hmem, rfl⟩
    · exact ⟨columns_border hwidths hchars, newline_not_mem_border hchars⟩
    · exact ⟨columns_line hlength hheaders (spans_emphasize colored),
        newline_not_mem_line hheaders (newline_not_mem_emphasize colored)⟩
    · exact ⟨columns_line ((hrows row hmem).trans hlength) (hcells row hmem) fun s => spans_of_closed,
        newline_not_mem_line (hcells row hmem) fun _ => id⟩
  have hrender : ∀ l ∈ t.render total colored, l.toList ∈ t.lines total colored := by
    intro l hl
    obtain ⟨chars, hchars, rfl⟩ := List.mem_map.1 hl
    rwa [String.toList_ofList]
  refine ⟨⟨_, t.rows.map (line id (t.widths total)), ?_, hhead, ?_⟩, ?_, ?_, ?_⟩
  · rw [render, lines, if_neg (by simpa using hne)]
  · rw [List.forall₂_map_right_iff, List.forall₂_same]
    exact hrow
  · rw [render, List.length_map, length_lines hne]
  · exact fun l hl => (hlines _ (hrender l hl)).1
  · exact fun l hl => (hlines _ (hrender l hl)).2

theorem aligned_of_measured (t : Table) (hne : t.headers ≠ [])
    (hplain : ∀ header ∈ t.headers,
      '\n' ∉ header.toList ∧ '\r' ∉ header.toList ∧ '\t' ∉ header.toList)
    (hrows : ∀ row ∈ t.rows, row.length = t.headers.length)
    (hheaders : ∀ header ∈ t.headers, Measured (oneLine header))
    (hcells : ∀ row ∈ t.rows, ∀ cell ∈ row, Measured (oneLine cell)) (total : Nat) (colored : Bool) :
    Aligned t.headers t.rows (t.widths total) colored (t.render total colored) := by
  have hhead : HasRoom (t.widths total) t.headers := by
    refine hasRoom_of_columnWidths hrows total hheaders fun i header hi => ?_
    rw [oneLine_eq_toList (hplain header (List.mem_of_getElem? hi)), columnWidths, hi]
    exact List.mem_append_left _ (by simp)
  have hbody : ∀ row ∈ t.rows, HasRoom (t.widths total) row := by
    intro row hrow
    refine hasRoom_of_columnWidths hrows total (hcells row hrow) fun i cell hi => ?_
    refine List.mem_append_right _ (List.mem_filterMap.2 ⟨row, hrow, ?_⟩)
    rw [hi]
    rfl
  exact aligned_render hne hrows hhead hbody colored

/-- Whatever rows are added, a table shows those with as many cells as there are headers, a line
each, and all lines are of one width. -/
theorem render_aligned {headers : List String} (hne : headers ≠ [])
    (hplain : ∀ header ∈ headers,
      '\n' ∉ header.toList ∧ '\r' ∉ header.toList ∧ '\t' ∉ header.toList)
    {calls : List (List String)} (hheaders : ∀ header ∈ headers, Measured (oneLine header))
    (hcells : ∀ row ∈ calls, row.length = headers.length → ∀ cell ∈ row, Measured (oneLine cell))
    (total : Nat) (colored : Bool) :
    let t := calls.foldl add { headers := headers }
    Aligned headers (calls.filter fun row => row.length = headers.length) (t.widths total) colored
      (t.render total colored) := by
  intro t
  have ht : t =
      { headers := headers, rows := calls.filter fun row => row.length = headers.length } :=
    foldl_add_filter { headers := headers } calls
  have hkept : ∀ row ∈ calls.filter fun row => row.length = headers.length,
      row.length = headers.length ∧ ∀ cell ∈ row, Measured (oneLine cell) := by
    intro row hrow
    obtain ⟨hmem, hlength⟩ := List.mem_filter.1 hrow
    have hlength : row.length = headers.length := by simpa using hlength
    exact ⟨hlength, hcells row hmem hlength⟩
  clear_value t
  subst ht
  exact aligned_of_measured { headers := headers, rows := _ } hne hplain
    (fun row hrow => (hkept row hrow).1) hheaders (fun row hrow => (hkept row hrow).2) total colored

/-- Wide characters that leave a cut cell short, a colour that is switched on and off, a break inside
a cell, and a row that is left out. -/
theorem render_aligned_wide :
    let headers := ["Source", "Flags"]
    let calls := [["compdb", "-D漢字漢字"], ["left out"],
      ["system", "\x1b[31m-I/opt\x1b[0m\n-DX"]]
    (headers ≠ [] ∧
      (∀ header ∈ headers, '\n' ∉ header.toList ∧ '\r' ∉ header.toList ∧ '\t' ∉ header.toList) ∧
      (∀ header ∈ headers, Measured (oneLine header)) ∧
      ∀ row ∈ calls, row.length = headers.length → ∀ cell ∈ row, Measured (oneLine cell)) ∧
    Aligned headers (calls.filter fun row => row.length = headers.length)
      ((calls.foldl add { headers := headers }).widths 21) true
      ((calls.foldl add { headers := headers }).render 21 true) := by
  intro headers calls
  have hheaders : ∀ header ∈ headers, Measured (oneLine header) := by decide +kernel
  have hcells : ∀ row ∈ calls, row.length = headers.length →
      ∀ cell ∈ row, Measured (oneLine cell) := by decide +kernel
  exact ⟨⟨by decide, by decide, hheaders, hcells⟩,
    render_aligned (by decide) (by decide) hheaders hcells 21 true⟩

end CompileFlags.Table
