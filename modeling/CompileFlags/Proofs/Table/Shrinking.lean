import CompileFlags.CommandLine.Report
import CompileFlags.Proofs.Table.Alignment

set_option autoImplicit false

namespace CompileFlags.Table

open Text

theorem widest_concat (front : List Nat) (c : Nat) :
    widest (front ++ [c]) = max (widest front) c := by
  induction front with
  | nil => simp [widest]
  | cons v front ih =>
    change max v (widest (front ++ [c])) = max (max v (widest front)) c
    rw [ih, Nat.max_assoc]

theorem span_concat (front : List Nat) (c : Nat) : span (front ++ [c]) = span front + c := by
  induction front with
  | nil => simp [span]
  | cons v front ih =>
    rw [List.cons_append, span_cons, span_cons, ih, Nat.add_assoc]

theorem lowerLast_concat (front : List Nat) (c : Nat) :
    lowerLast c (front ++ [c]) = front ++ [c - 1] := by
  induction front with
  | nil => simp [lowerLast]
  | cons v front ih =>
    have hlater : ¬ (v = c ∧ c ∉ front ++ [c]) := by simp
    rw [List.cons_append, lowerLast, if_neg hlater, ih, List.cons_append]

/-- When the other columns leave enough room, the last one takes what they leave, and they keep
their widths. -/
theorem fit_concat {room : Nat} {front : List Nat} (hwide : widest front ≤ room - span front)
    (hleast : leastWidth ≤ room - span front) (c : Nat) :
    fit room (front ++ [c]) = front ++ [min c (room - span front)] := by
  -- A turn of the loop takes one off the last width, so the induction is on that width.
  induction c with
  | zero =>
    have hspan : span (front ++ [0]) ≤ room := by
      rw [span_concat]
      simp only [leastWidth] at hleast
      omega
    rw [fit, if_pos (.inl hspan), Nat.zero_min]
  | succ c ih =>
    by_cases hroom : span (front ++ [c + 1]) ≤ room
    · have hmin : min (c + 1) (room - span front) = c + 1 := by
        rw [span_concat] at hroom
        omega
      rw [fit, if_pos (.inl hroom), hmin]
    · -- The last column is over the room left, so it alone is the widest and is still large.
      have hover : room - span front < c + 1 := by
        rw [span_concat] at hroom
        omega
      have hwidest : widest (front ++ [c + 1]) = c + 1 := by
        rw [widest_concat]
        omega
      have hlarge : ¬ widest (front ++ [c + 1]) ≤ leastWidth := by
        rw [hwidest]
        omega
      rw [fit, if_neg (not_or.2 ⟨hroom, hlarge⟩), hwidest, lowerLast_concat, Nat.add_sub_cancel, ih]
      congr 2
      omega

theorem oneLine_of_isPrintable {cell : String} (h : ∀ c ∈ cell.toList, IsPrintable c) :
    oneLine cell = cell.toList := by
  refine oneLine_eq_toList ⟨fun hc => ?_, fun hc => ?_, fun hc => ?_⟩ <;>
    exact absurd (h _ hc) (by decide)

theorem cellWidth_of_isPrintable {cell : String} (h : ∀ c ∈ cell.toList, IsPrintable c) :
    cellWidth cell = cell.length := by
  rw [cellWidth_eq, oneLine_of_isPrintable h, columns_of_isPrintable h, String.length_toList]

theorem foldl_add {t : Table} {rows : List (List String)}
    (h : ∀ row ∈ rows, row.length = t.headers.length) :
    rows.foldl add t = { t with rows := t.rows ++ rows } := by
  rw [foldl_add_filter, List.filter_eq_self.2 (by simpa using h)]

end CompileFlags.Table

namespace CompileFlags.CommandLine

open Table Text

theorem sectionTable_eq (ss : Sections) :
    sectionTable ss =
      { headers := ["Source", "Count", "Flags"], rows := ss.map fun s => sectionRow s.1 s.2 } := by
  rw [sectionTable, foldl_add]
  · rfl
  · intro row hrow
    obtain ⟨s, -, rfl⟩ := List.mem_map.1 hrow
    rfl

theorem headers_sectionTable (ss : Sections) :
    (sectionTable ss).headers = ["Source", "Count", "Flags"] := by
  rw [sectionTable_eq]

theorem rows_sectionTable (ss : Sections) :
    (sectionTable ss).rows = ss.map fun s => sectionRow s.1 s.2 := by
  rw [sectionTable_eq]

theorem room_sectionTable (ss : Sections) :
    terminalWidth - (sectionTable ss).borderWidth = 70 := by
  rw [borderWidth, headers_sectionTable]
  rfl

theorem isPrintable_name (source : Source) : ∀ c ∈ source.name.toList, IsPrintable c := by
  have hall : source.name.toList.all (fun c => decide (IsPrintable c)) = true := by
    cases source <;> decide
  simpa using hall

theorem cellWidth_name_le (source : Source) : cellWidth source.name ≤ 9 := by
  rw [cellWidth_of_isPrintable (isPrintable_name source)]
  cases source <;> decide

theorem cellWidth_toString_le {n : Nat} (h : n < 2 ^ 64) : cellWidth (toString n) ≤ 20 := by
  rw [cellWidth_of_isPrintable (isPrintable_toString n)]
  exact Nat.repr_length n 20 (by decide) (Nat.lt_of_lt_of_le h (by decide))

/-- Widths in which a source and its count have room, and the flags have most of it. -/
structure Holds (widths : List Nat) (a b : Nat) : Prop where
  shape : ∃ c, widths = [a, b, c]
  name_le : a ≤ 9
  count_le : b ≤ 20

/-- The natural widths after some more rows: the columns only grow, and the first two not over the
longest name and the longest count. -/
theorem foldl_sectionRow {ss : Sections} (hlength : ∀ s ∈ ss, s.2.length < 2 ^ 64)
    {widths : List Nat} {a b : Nat} (h : Holds widths a b) :
    ∃ a' b', Holds
        ((ss.map fun s => sectionRow s.1 s.2).foldl
          (fun widths row => List.zipWith max widths (row.map cellWidth)) widths) a' b' ∧
      a ≤ a' ∧ b ≤ b' ∧
      ∀ s ∈ ss, cellWidth s.1.name ≤ a' ∧ cellWidth (toString s.2.length) ≤ b' := by
  -- `Holds` is kept by each row; that the columns only grow carries a row's own bound to the end.
  induction ss generalizing widths a b with
  | nil => exact ⟨a, b, h, Nat.le_refl a, Nat.le_refl b, by simp⟩
  | cons s ss ih =>
    obtain ⟨⟨c, rfl⟩, ha, hb⟩ := h
    have hname := cellWidth_name_le s.1
    have hcount := cellWidth_toString_le (hlength s List.mem_cons_self)
    have hnext : Holds
        (List.zipWith max [a, b, c] ((sectionRow s.1 s.2).map cellWidth))
        (max a (cellWidth s.1.name)) (max b (cellWidth (toString s.2.length))) :=
      ⟨⟨_, rfl⟩, by omega, by omega⟩
    obtain ⟨a', b', hholds, haa, hbb, hall⟩ :=
      ih (fun s hs => hlength s (List.mem_cons_of_mem _ hs)) hnext
    refine ⟨a', b', hholds, by omega, by omega, fun s' hs' => ?_⟩
    rcases List.mem_cons.1 hs' with rfl | hs'
    · exact ⟨by omega, by omega⟩
    · exact hall s' hs'

theorem widths_sectionTable {ss : Sections} (hlength : ∀ s ∈ ss, s.2.length < 2 ^ 64) :
    ∃ a b c, (sectionTable ss).widths terminalWidth = [a, b, c] ∧
      ∀ s ∈ ss, cellWidth s.1.name ≤ a ∧ cellWidth (toString s.2.length) ≤ b := by
  have hheaders : Holds (["Source", "Count", "Flags"].map fun header => columns header.toList) 6 5 :=
    ⟨⟨5, by decide +kernel⟩, by decide, by decide⟩
  obtain ⟨a, b, ⟨⟨c, hnatural⟩, ha, hb⟩, -, -, hall⟩ := foldl_sectionRow hlength hheaders
  have hspan : span [a, b] = a + b := rfl
  have hwidest : widest [a, b] = max a b := by simp [widest]
  refine ⟨a, b, min c (70 - (a + b)), ?_, hall⟩
  have hfit : fit 70 ([a, b] ++ [c]) = [a, b] ++ [min c (70 - span [a, b])] :=
    fit_concat (by rw [hspan, hwidest]; omega) (by rw [hspan, leastWidth]; omega) c
  have hwidths : (sectionTable ss).naturalWidths = [a, b] ++ [c] := by
    rw [sectionTable_eq]
    exact hnatural
  rw [Table.widths, room_sectionTable, hwidths, hfit, hspan]
  rfl

def blanks (n : Nat) : String :=
  String.ofList (List.replicate n ' ')

theorem aligned_sectionTable {ss : Sections}
    (hflags : ∀ s ∈ ss, Measured (oneLine (" ".intercalate s.2.tokens))) :
    Aligned (sectionTable ss).headers (sectionTable ss).rows
      ((sectionTable ss).widths terminalWidth) false
      ((sectionTable ss).render terminalWidth false) := by
  have hprintable : ∀ text : String, (∀ c ∈ text.toList, IsPrintable c) →
      Measured (oneLine text) := by
    intro text htext
    rw [oneLine_of_isPrintable htext]
    exact measured_of_isPrintable htext
  refine aligned_of_measured _ ?_ ?_ ?_ ?_ ?_ terminalWidth false
  · rw [headers_sectionTable]
    exact List.cons_ne_nil _ _
  · rw [headers_sectionTable]
    decide
  · rw [headers_sectionTable, rows_sectionTable, List.forall_mem_map]
    exact fun s _ => rfl
  · rw [headers_sectionTable]
    decide +kernel
  · rw [rows_sectionTable, List.forall_mem_map]
    intro s hs
    rw [sectionRow, List.forall_mem_cons, List.forall_mem_cons, List.forall_mem_singleton]
    refine ⟨hprintable _ (isPrintable_name s.1), hprintable _ (isPrintable_toString _), ?_⟩
    split
    · decide +kernel
    · exact hflags s hs

theorem span_widths_sectionTable_le {ss : Sections} (hlength : ∀ s ∈ ss, s.2.length < 2 ^ 64) :
    span ((sectionTable ss).widths terminalWidth) ≤ 70 := by
  have hsettled : Settled 70 ((sectionTable ss).widths terminalWidth) := by
    rw [Table.widths, room_sectionTable]
    exact settled_fit _ _
  obtain ⟨a, b, c, hwidths, -⟩ := widths_sectionTable hlength
  rcases hsettled with hfits | hsmall
  · exact hfits
  · rw [hwidths] at hsmall ⊢
    simp only [widest_le_iff, List.forall_mem_cons] at hsmall
    simp only [span, List.foldr_cons, List.foldr_nil]
    omega

/-- The table of sources keeps to the terminal, however long the flags are. -/
theorem columns_render_sectionTable_le {ss : Sections} (hlength : ∀ s ∈ ss, s.2.length < 2 ^ 64)
    (hflags : ∀ s ∈ ss, Measured (oneLine (" ".intercalate s.2.tokens))) :
    ∀ l ∈ (sectionTable ss).render terminalWidth false, columns l.toList ≤ terminalWidth := by
  intro l hl
  have hspan := span_widths_sectionTable_le hlength
  have hterminal : terminalWidth = 80 := rfl
  have hcolumns := (aligned_sectionTable hflags).columns_eq l hl
  rw [headers_sectionTable] at hcolumns
  simp only [List.length_cons, List.length_nil] at hcolumns
  omega

end CompileFlags.CommandLine
