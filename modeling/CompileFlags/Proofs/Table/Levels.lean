import CompileFlags.Table
import Mathlib.Logic.Function.Iterate

set_option autoImplicit false

/-!
# The level that wide columns share

A table that is too wide gives up one column of the terminal a turn. Whatever the turns, the widths
are the natural ones cut at a common level: columns up to the level keep their widths, the others
are at the level or one above it, and those above it come first. So the loop ends with an exact fit
or with every column as small as columns get.
-/

namespace CompileFlags.Table

variable {room L : Nat} {ws vs : List Nat}

def lower (widths : List Nat) : List Nat :=
  lowerLast (widest widths) widths

def Settled (room : Nat) (widths : List Nat) : Prop :=
  span widths ≤ room ∨ widest widths ≤ 8

theorem fit_of_settled (h : Settled room ws) : fit room ws = ws := by
  rw [fit]
  exact if_pos h

theorem fit_of_not_settled (h : ¬ Settled room ws) : fit room ws = fit room (lower ws) := by
  rw [fit]
  exact if_neg h

theorem widest_le_iff {n : Nat} : widest ws ≤ n ↔ ∀ w ∈ ws, w ≤ n := by
  induction ws with
  | nil => simp [widest]
  | cons w ws ih =>
    change max w (widest ws) ≤ n ↔ _
    rw [Nat.max_le, ih, List.forall_mem_cons]

theorem span_lower (h : ¬ Settled room ws) : span (lower ws) + 1 = span ws := by
  have hwide : 8 < widest ws := Nat.not_le.1 fun hle => h (.inr hle)
  have hpos : 0 < widest ws := by omega
  exact span_lowerLast hpos (widest_mem hpos)

theorem turns_induction (room : Nat) {motive : List Nat → Prop} (settled : ∀ ws, Settled room ws → motive ws)
    (turn : ∀ ws, ¬ Settled room ws → motive (lower ws) → motive ws) (ws : List Nat) :
    motive ws := by
  generalize hn : span ws = n
  induction n using Nat.strongRecOn generalizing ws with
  | ind n ih =>
    by_cases h : Settled room ws
    · exact settled ws h
    · have hless := span_lower h
      exact turn ws h (ih (span (lower ws)) (by omega) (lower ws) rfl)

theorem settled_fit (room : Nat) (ws : List Nat) : Settled room (fit room ws) := by
  induction ws using turns_induction room with
  | settled ws h => rwa [fit_of_settled h]
  | turn ws h ih => rwa [fit_of_not_settled h]

/-- The loop ends after some turns, before which the widths were never settled. -/
theorem exists_turns (room : Nat) (ws : List Nat) :
    ∃ turns, fit room ws = lower^[turns] ws ∧ ∀ n < turns, ¬ Settled room (lower^[n] ws) := by
  induction ws using turns_induction room with
  | settled ws h => exact ⟨0, fit_of_settled h, by simp⟩
  | turn ws h ih =>
    obtain ⟨turns, heq, hbefore⟩ := ih
    refine ⟨turns + 1, ?_, ?_⟩
    · rw [fit_of_not_settled h, heq, Function.iterate_succ_apply]
    · intro n hn
      cases n with
      | zero => exact h
      | succ n =>
        rw [Function.iterate_succ_apply]
        exact hbefore n (by omega)

theorem le_span_fit (room : Nat) (ws : List Nat) (h : room < span ws) :
    room ≤ span (fit room ws) := by
  induction ws using turns_induction room with
  | settled ws hs =>
    rw [fit_of_settled hs]
    omega
  | turn ws hs ih =>
    rw [fit_of_not_settled hs]
    have hlower := span_lower hs
    by_cases heq : span (lower ws) ≤ room
    · rw [fit_of_settled (.inl heq)]
      omega
    · exact ih (by omega)

/-- Widths cut at a level. Behind a column that was cut down to the level no other one is above
it. -/
inductive CutAt (L : Nat) : List Nat → List Nat → Prop where
  | nil : CutAt L [] []
  | kept {w : Nat} {ws vs : List Nat} (hw : w ≤ L) (h : CutAt L ws vs) :
      CutAt L (w :: ws) (w :: vs)
  | above {w : Nat} {ws vs : List Nat} (hw : L < w) (h : CutAt L ws vs) :
      CutAt L (w :: ws) ((L + 1) :: vs)
  | cut {w : Nat} {ws vs : List Nat} (hw : L < w) (hvs : ∀ v ∈ vs, v ≤ L) (h : CutAt L ws vs) :
      CutAt L (w :: ws) (L :: vs)

namespace CutAt

theorem refl (h : ∀ w ∈ ws, w ≤ L) : CutAt L ws ws := by
  induction ws with
  | nil => exact .nil
  | cons w ws ih =>
    rw [List.forall_mem_cons] at h
    exact .kept h.1 (ih h.2)

theorem le_succ (h : CutAt L ws vs) : ∀ v ∈ vs, v ≤ L + 1 := by
  induction h with
  | nil => simp
  | kept hw _ ih => exact List.forall_mem_cons.2 ⟨by omega, ih⟩
  | above _ _ ih => exact List.forall_mem_cons.2 ⟨Nat.le_refl _, ih⟩
  | cut _ _ _ ih => exact List.forall_mem_cons.2 ⟨Nat.le_succ _, ih⟩

/-- Where no column is over a smaller level by more than one, the widths are cut at that level
too. -/
theorem relax {M : Nat} (h : CutAt L ws vs) (hM : M ≤ L) (hvs : ∀ v ∈ vs, v ≤ M + 1) :
    CutAt M ws vs := by
  induction h with
  | nil => exact .nil
  | @kept w ws vs hw _ ih =>
    rw [List.forall_mem_cons] at hvs
    have htail := ih hvs.2
    by_cases hwM : w ≤ M
    · exact .kept hwM htail
    · obtain rfl : w = M + 1 := by omega
      exact .above (Nat.lt_succ_self M) htail
  | above hw _ ih =>
    rw [List.forall_mem_cons] at hvs
    obtain rfl : L = M := by omega
    exact .above hw (ih hvs.2)
  | cut hw hrest _ ih =>
    rw [List.forall_mem_cons] at hvs
    have htail := ih hvs.2
    rcases Nat.eq_or_lt_of_le hM with rfl | hlt
    · exact .cut hw hrest htail
    · obtain rfl : L = M + 1 := by omega
      exact .above (by omega) htail

end CutAt

theorem lowerLast_of_not_mem {w : Nat} (h : w ∉ vs) : lowerLast w vs = vs := by
  induction vs with
  | nil => rfl
  | cons v vs ih =>
    rw [List.mem_cons, not_or] at h
    rw [lowerLast, if_neg fun hv => h.1 hv.1.symm, ih h.2]

namespace CutAt

theorem lowerLast (h : CutAt L ws vs) : CutAt L ws (lowerLast (L + 1) vs) := by
  induction h with
  | nil => exact .nil
  | kept hw _ ih =>
    rw [Table.lowerLast, if_neg (by omega)]
    exact .kept hw ih
  | @above w ws vs hw h ih =>
    by_cases hlater : L + 1 ∈ vs
    · rw [Table.lowerLast, if_neg (by simp [hlater])]
      exact .above hw ih
    · rw [Table.lowerLast, if_pos ⟨rfl, hlater⟩, Nat.add_sub_cancel]
      refine .cut hw ?_ h
      intro v hv
      have hle := h.le_succ v hv
      have hne : v ≠ L + 1 := fun heq => hlater (heq ▸ hv)
      omega
  | @cut w ws vs hw hvs h ih =>
    -- Nothing behind a column at the level is above it, so nothing is lowered.
    have hnone : L + 1 ∉ vs := fun hmem => absurd (hvs _ hmem) (by omega)
    rw [Table.lowerLast, if_neg (by omega), lowerLast_of_not_mem hnone]
    exact .cut hw hvs h

theorem lower (h : CutAt L ws vs) (hwide : 8 < widest vs) :
    ∃ M, 8 ≤ M ∧ CutAt M ws (lower vs) := by
  obtain ⟨M, hM⟩ : ∃ M, widest vs = M + 1 := ⟨widest vs - 1, by omega⟩
  have hle : widest vs ≤ L + 1 := widest_le_iff.2 h.le_succ
  refine ⟨M, by omega, ?_⟩
  rw [Table.lower, hM]
  exact (h.relax (by omega) (widest_le_iff.1 (Nat.le_of_eq hM))).lowerLast

theorem fit (room : Nat) (h : CutAt L ws vs) (hL : 8 ≤ L) :
    ∃ M, 8 ≤ M ∧ CutAt M ws (fit room vs) := by
  induction vs using turns_induction room generalizing L with
  | settled vs hs => exact ⟨L, hL, by rwa [fit_of_settled hs]⟩
  | turn vs hs ih =>
    have hwide : 8 < widest vs := Nat.not_le.1 fun hle => hs (.inr hle)
    obtain ⟨M, hM, hlower⟩ := h.lower hwide
    rw [fit_of_not_settled hs]
    exact ih hlower hM

end CutAt

theorem exists_cutAt (room : Nat) (ws : List Nat) :
    ∃ L, 8 ≤ L ∧ CutAt L ws (fit room ws) := by
  have hself : CutAt (max 8 (widest ws)) ws ws :=
    .refl (widest_le_iff.1 (Nat.le_max_right _ _))
  exact hself.fit room (Nat.le_max_left _ _)

def leastWidths (widths : List Nat) : List Nat :=
  widths.map fun w => min w 8

namespace CutAt

theorem span_leastWidths_le (h : CutAt L ws vs) (hL : 8 ≤ L) :
    span (leastWidths ws) ≤ span vs := by
  induction h with
  | nil => exact Nat.le_refl _
  | kept | above | cut =>
    rename_i ih
    simp only [leastWidths, List.map_cons, span_cons] at ih ⊢
    omega

theorem eq_leastWidths_of_span_le (h : CutAt L ws vs) (hL : 8 ≤ L)
    (hspan : span vs ≤ span (leastWidths ws)) : vs = leastWidths ws := by
  induction h with
  | nil => rfl
  | kept | above | cut =>
    rename_i h ih
    have htail := h.span_leastWidths_le hL
    simp only [leastWidths, List.map_cons, span_cons, List.cons.injEq] at ih htail hspan ⊢
    exact ⟨by omega, ih (by omega)⟩

theorem eq_leastWidths_of_widest_le (h : CutAt L ws vs) (hL : 8 ≤ L)
    (hwidest : ∀ v ∈ vs, v ≤ 8) : vs = leastWidths ws := by
  induction h with
  | nil => rfl
  | kept | above | cut =>
    rename_i ih
    rw [List.forall_mem_cons] at hwidest
    simp only [leastWidths, List.map_cons, List.cons.injEq] at ih ⊢
    exact ⟨by omega, ih hwidest.2⟩

end CutAt

theorem fit_eq_leastWidths (h : room ≤ span (leastWidths ws)) : fit room ws = leastWidths ws := by
  obtain ⟨L, hL, hcut⟩ := exists_cutAt room ws
  rcases settled_fit room ws with hroom | hsmall
  · exact hcut.eq_leastWidths_of_span_le hL (Nat.le_trans hroom h)
  · exact hcut.eq_leastWidths_of_widest_le hL (widest_le_iff.1 hsmall)

theorem span_fit_eq (hleast : span (leastWidths ws) < room) (hwide : room < span ws) :
    span (fit room ws) = room := by
  have hge := le_span_fit room ws hwide
  rcases settled_fit room ws with hroom | hsmall
  · omega
  · obtain ⟨L, hL, hcut⟩ := exists_cutAt room ws
    rw [hcut.eq_leastWidths_of_widest_le hL (widest_le_iff.1 hsmall)] at hge
    omega

/-- Widths cut at a level, seen column by column. -/
structure Levelled (L : Nat) (ws vs : List Nat) : Prop where
  length_eq : vs.length = ws.length
  kept : ∀ i w : Nat, ws[i]? = some w → w ≤ L → vs[i]? = some w
  cut : ∀ i w : Nat, ws[i]? = some w → L < w → vs[i]? = some L ∨ vs[i]? = some (L + 1)
  above_first : ∀ i j v w : Nat, ws[i]? = some v → L < v → vs[i]? = some (L + 1) →
    ws[j]? = some w → L < w → vs[j]? = some L → i < j

namespace CutAt

theorem length_eq (h : CutAt L ws vs) : vs.length = ws.length := by
  induction h with
  | nil => rfl
  | kept | above | cut =>
    rename_i ih
    rw [List.length_cons, List.length_cons, ih]

theorem getElem?_of_le (h : CutAt L ws vs) {i w : Nat} (hi : ws[i]? = some w) (hw : w ≤ L) :
    vs[i]? = some w := by
  induction h generalizing i with
  | nil => simp at hi
  | kept _ _ ih =>
    cases i with
    | zero => exact hi
    | succ i => exact ih hi
  | above _ _ ih | cut _ _ _ ih =>
    cases i with
    | zero =>
      obtain rfl := Option.some.inj hi
      omega
    | succ i => exact ih hi

theorem getElem?_of_lt (h : CutAt L ws vs) {i w : Nat} (hi : ws[i]? = some w) (hw : L < w) :
    vs[i]? = some L ∨ vs[i]? = some (L + 1) := by
  induction h generalizing i with
  | nil => simp at hi
  | kept _ _ ih =>
    cases i with
    | zero =>
      obtain rfl := Option.some.inj hi
      omega
    | succ i => exact ih hi
  | above _ _ ih =>
    cases i with
    | zero => exact .inr rfl
    | succ i => exact ih hi
  | cut _ _ _ ih =>
    cases i with
    | zero => exact .inl rfl
    | succ i => exact ih hi

theorem le_behind (h : CutAt L ws vs) {i j v w : Nat} (hj : ws[j]? = some w) (hw : L < w)
    (hjL : vs[j]? = some L) (hij : j < i) (hi : vs[i]? = some v) : v ≤ L := by
  induction h generalizing i j with
  | nil => simp at hj
  | kept _ _ ih | above _ _ ih =>
    obtain ⟨i, rfl⟩ := Nat.exists_eq_succ_of_ne_zero (Nat.ne_zero_of_lt hij)
    cases j with
    | zero =>
      have hwidth := Option.some.inj hj
      have hlevel := Option.some.inj hjL
      omega
    | succ j => exact ih hj hjL (Nat.lt_of_succ_lt_succ hij) hi
  | cut _ hvs _ ih =>
    obtain ⟨i, rfl⟩ := Nat.exists_eq_succ_of_ne_zero (Nat.ne_zero_of_lt hij)
    cases j with
    | zero => exact hvs v (List.mem_of_getElem? hi)
    | succ j => exact ih hj hjL (Nat.lt_of_succ_lt_succ hij) hi

theorem levelled (h : CutAt L ws vs) : Levelled L ws vs := by
  refine ⟨h.length_eq, fun i w => h.getElem?_of_le, fun i w => h.getElem?_of_lt, ?_⟩
  intro i j v w _ _ hiL hj hw hjL
  by_contra hij
  rcases Nat.eq_or_lt_of_le (Nat.not_lt.1 hij) with rfl | hlt
  · have heq := Option.some.inj (hiL.symm.trans hjL)
    omega
  · have hle := h.le_behind hj hw hjL hlt hiL
    omega

end CutAt

theorem Levelled.bounds (h : Levelled L ws vs) (hL : 8 ≤ L) {i v w : Nat}
    (hw : ws[i]? = some w) (hv : vs[i]? = some v) : v ≤ w ∧ min w 8 ≤ v := by
  by_cases hwL : w ≤ L
  · obtain rfl := Option.some.inj (hv.symm.trans (h.kept i w hw hwL))
    omega
  · have hv' : v = L ∨ v = L + 1 := by
      have hcut := h.cut i w hw (by omega)
      rw [hv, Option.some.injEq, Option.some.injEq] at hcut
      exact hcut
    omega

/-- A cell with a space for each newline, carriage return and tab. -/
def oneLine (cell : String) : List Char :=
  cell.toList.map fun c => if c ∈ ['\n', '\r', '\t'] then ' ' else c

theorem flatten_eq (cell : String) : flatten cell = oneLine cell := by
  simp only [flatten, oneLine, List.mem_cons, List.not_mem_nil, or_false]

theorem cellWidth_eq (cell : String) : cellWidth cell = Text.columns (oneLine cell) := by
  rw [cellWidth, flatten_eq]

def columnWidths (t : Table) (i : Nat) : List Nat :=
  (t.headers[i]?.map fun header => Text.columns header.toList).toList ++
    t.rows.filterMap fun row => row[i]?.map fun cell => Text.columns (oneLine cell)

theorem foldl_add_filter (t : Table) (rows : List (List String)) :
    rows.foldl add t =
      { t with rows := t.rows ++ rows.filter fun row => row.length = t.headers.length } := by
  induction rows generalizing t with
  | nil => simp
  | cons row rows ih =>
    rw [List.foldl_cons, ih]
    by_cases hlength : row.length = t.headers.length
    · rw [add, if_pos hlength, List.filter_cons_of_pos (by simpa using hlength)]
      simp
    · rw [add, if_neg hlength, List.filter_cons_of_neg (by simpa using hlength)]

theorem oneLine_eq_toList {cell : String}
    (h : '\n' ∉ cell.toList ∧ '\r' ∉ cell.toList ∧ '\t' ∉ cell.toList) :
    oneLine cell = cell.toList := by
  refine (List.map_congr_left fun c hc => if_neg ?_).trans (List.map_id _)
  simp only [List.mem_cons, List.not_mem_nil, or_false]
  rintro (rfl | rfl | rfl)
  · exact h.1 hc
  · exact h.2.1 hc
  · exact h.2.2 hc

theorem getElem?_naturalWidths {t : Table}
    (h : ∀ row ∈ t.rows, row.length = t.headers.length) (i : Nat) :
    t.naturalWidths[i]? = (t.columnWidths i).max? := by
  -- The widths of the headers become any widths for as many columns, as the fold changes them.
  suffices hfold : ∀ (rows : List (List String)) (widths : List Nat),
      (∀ row ∈ rows, row.length = widths.length) →
      (rows.foldl (fun widths row => List.zipWith max widths (row.map cellWidth)) widths)[i]? =
        (widths[i]?.toList ++ rows.filterMap fun row => row[i]?.map cellWidth).max? by
    rw [naturalWidths, hfold t.rows _ (by simpa using h), List.getElem?_map, columnWidths]
    simp only [funext cellWidth_eq]
  intro rows
  induction rows with
  | nil =>
    intro widths _
    cases hi : widths[i]? <;> simp [hi]
  | cons row rows ih =>
    intro widths hrows
    rw [List.forall_mem_cons] at hrows
    have hlength : (List.zipWith max widths (row.map cellWidth)).length = widths.length := by
      simp [hrows.1]
    rw [List.foldl_cons, ih _ (by simpa [hlength] using hrows.2), List.getElem?_zipWith,
      List.getElem?_map]
    by_cases hi : i < widths.length
    · have hrow : row[i]? = some row[i] := List.getElem?_eq_getElem (hrows.1 ▸ hi)
      rw [List.getElem?_eq_getElem hi, List.filterMap_cons_some (by rw [hrow]; rfl), hrow]
      simp only [Option.map_some, Option.toList_some, List.singleton_append, List.max?_cons',
        List.foldl_cons]
    · have hrow : row[i]? = none := List.getElem?_eq_none (by omega)
      rw [List.getElem?_eq_none (by omega), List.filterMap_cons_none (by simp [hrow])]

/-- The widths of a table: as they are when there is room, as small as they get when there is none
even so, and else an exact fit; and whatever is the case, cut at a level. -/
theorem widths_levelled (headers : List String) (rows : List (List String)) (total : Nat) :
    let t := rows.foldl add { headers := headers }
    let ws := t.naturalWidths
    let vs := t.widths total
    let borders := 1 + 3 * headers.length
    (∀ i, ws[i]? = (t.columnWidths i).max?) ∧
    (∃ turns, vs = lower^[turns] ws ∧ Settled (total - borders) vs ∧
      ∀ n < turns, ¬ Settled (total - borders) (lower^[n] ws)) ∧
    (borders + span ws ≤ total → vs = ws) ∧
    (total ≤ borders + span (leastWidths ws) → vs = leastWidths ws) ∧
    (borders + span (leastWidths ws) < total → total < borders + span ws →
      borders + span vs = total) ∧
    (∃ L, 8 ≤ L ∧ Levelled L ws vs) ∧
    ∀ i v w : Nat, ws[i]? = some w → vs[i]? = some v → v ≤ w ∧ min w 8 ≤ v := by
  intro t ws vs borders
  have ht : t = { headers := headers, rows := rows.filter fun row => row.length = headers.length } :=
    foldl_add_filter { headers := headers } rows
  have hvs : vs = fit (total - borders) ws := by
    simp only [vs, ws, widths, borderWidth, ht, borders]
  obtain ⟨L, hL, hcut⟩ := exists_cutAt (total - borders) ws
  obtain ⟨turns, hturns, hbefore⟩ := exists_turns (total - borders) ws
  rw [← hvs] at hcut hturns
  refine ⟨?_, ⟨turns, hturns, hvs ▸ settled_fit _ _, hbefore⟩, ?_, ?_, ?_, ⟨L, hL, hcut.levelled⟩, ?_⟩
  · refine getElem?_naturalWidths fun row hrow => ?_
    simp only [ht, List.mem_filter, decide_eq_true_eq] at hrow ⊢
    exact hrow.2
  · intro hroom
    have hspan : span ws ≤ total - borders := by omega
    exact hvs.trans (fit_of_settled (.inl hspan))
  · intro hnone
    have hroom : total - borders ≤ span (leastWidths ws) := by omega
    exact hvs.trans (fit_eq_leastWidths hroom)
  · intro hleast hwide
    have hless : span (leastWidths ws) < total - borders := by omega
    have hmore : total - borders < span ws := by omega
    have hfit : span (fit (total - borders) ws) = total - borders := span_fit_eq hless hmore
    rw [hvs]
    omega
  · intro i v w hw hv
    exact hcut.levelled.bounds hL hw hv

end CompileFlags.Table
