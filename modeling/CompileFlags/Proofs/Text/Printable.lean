import CompileFlags.Proofs.Text.Sequences
import Mathlib.Data.Nat.Digits.Defs

set_option autoImplicit false

namespace CompileFlags.Text

def IsPrintable (c : Char) : Prop :=
  0x20 ≤ c.toNat ∧ c.toNat < 0x7F

instance (c : Char) : Decidable (IsPrintable c) :=
  inferInstanceAs (Decidable (_ ∧ _))

variable {c : Char} {s : List Char}

namespace IsPrintable

theorem isControl (h : IsPrintable c) : isControl c = false := by
  obtain ⟨hlow, hhigh⟩ := h
  simp only [Text.isControl, within, Bool.or_eq_false_iff, Bool.and_eq_false_iff,
    decide_eq_false_iff_not]
  omega

theorem charWidth (h : IsPrintable c) : charWidth c = 1 := by
  have hcode : c.toNat < 0x7F := h.2
  have hout : ∀ ranges : List (Nat × Nat), (∀ range ∈ ranges, 0x7F ≤ range.1) →
      inRanges ranges c.toNat = false :=
    fun ranges hranges =>
      inRanges_eq_false fun range hrange => .inl (Nat.lt_of_lt_of_le hcode (hranges range hrange))
  rw [Text.charWidth, h.isControl, hout zeroWidthRanges (by decide +kernel),
    hout wideRanges (by decide +kernel)]
  simp only [Bool.false_eq_true, if_false]
  rw [if_neg (by omega)]

theorem rigid (h : IsPrintable c) : Rigid c := by
  have hcode : c.toNat < 0x7F := h.2
  have hselector : Selector.ofChar? c = none := by
    rw [Selector.ofChar?, if_neg (by omega), if_neg (by omega), if_neg (by omega)]
  have hfront : Front.ofChar c = .plain := by
    have hfeed : c ≠ '\n' := by
      rintro rfl
      exact absurd h (by decide)
    rw [Front.ofChar, if_neg hfeed, if_pos (by omega)]
  simp [Rigid, Ahead.free, measureStep, selected?, hselector, Ahead.unselect, joined?, h.isControl,
    h.charWidth, hfront]

theorem isEscape (h : IsPrintable c) : isEscape c = false := by
  have hcode : c.toNat ≠ 0x9b := by have := h.2; omega
  have hchar : c ≠ '\x1b' := by
    rintro rfl
    exact absurd h (by decide)
  simp [Text.isEscape, hcode, hchar]

end IsPrintable

theorem runs_of_isPrintable (h : ∀ c ∈ s, IsPrintable c) (hs : s ≠ []) : runs s = [.shown s] := by
  induction s with
  | nil => exact absurd rfl hs
  | cons c s ih =>
    rw [List.forall_mem_cons] at h
    rw [runs_shown (escapeLength_of_not_isEscape h.1.isEscape s)]
    cases s with
    | nil => rfl
    | cons d s => rw [ih h.2 (List.cons_ne_nil d s)]; rfl

theorem columns_of_isPrintable (h : ∀ c ∈ s, IsPrintable c) : columns s = s.length := by
  have hscan := scan_of_rigid (fun c hc => ⟨(h c hc).rigid, (h c hc).isEscape⟩) 0 scan_nil
  rw [List.append_nil, Nat.zero_add] at hscan
  rw [columns_eq_scan, hscan]

theorem looseWidth_of_isPrintable (h : ∀ c ∈ s, IsPrintable c) : looseWidth s = s.length := by
  induction s with
  | nil => rfl
  | cons c s ih =>
    rw [List.forall_mem_cons] at h
    rw [looseWidth_cons, h.1.charWidth, ih h.2, List.length_cons, Nat.add_comm]

theorem columns_clip_of_isPrintable (h : ∀ c ∈ s, IsPrintable c) {w : Nat} (hw : 3 ≤ w) :
    columns (clip w s) ≤ w := by
  by_cases hfits : columns s ≤ w
  · rwa [clip_of_columns_le hfits]
  · have hs : s ≠ [] := by
      rintro rfl
      exact hfits (Nat.zero_le w)
    have hwidth : width s = columns s := by
      rw [columns, runs_of_isPrintable h hs]
      rfl
    have hdots : width dots = 3 := by decide +kernel
    have hclip : clip w s = takeColumns (w - 3) s ++ dots := by
      rw [clip, if_neg hfits, runs_of_isPrintable h hs, hdots, clipRuns, if_neg (by omega)]
      exact List.append_nil _
    have hstart := takeColumns_prefix (w - 3) s
    have htake : ∀ c ∈ takeColumns (w - 3) s, IsPrintable c := fun c hc => h c (hstart.subset hc)
    have hlength := looseWidth_takeColumns_le (w - 3) s
    rw [looseWidth_of_isPrintable htake] at hlength
    have hall : ∀ c ∈ takeColumns (w - 3) s ++ dots, IsPrintable c := by
      intro c hc
      rcases List.mem_append.1 hc with hc | hc
      · exact htake c hc
      · obtain rfl : c = '.' := List.eq_of_mem_replicate (n := 3) hc
        decide
    rw [hclip, columns_of_isPrintable hall, List.length_append]
    have hthree : dots.length = 3 := rfl
    omega

theorem isPrintable_of_isDigit (h : c.isDigit = true) : IsPrintable c := by
  have hrange : 48 ≤ c.toNat ∧ c.toNat ≤ 57 := by
    simpa [Char.isDigit, UInt32.le_iff_toNat_le] using h
  exact ⟨by omega, by omega⟩

theorem isPrintable_toString (n : Nat) : ∀ c ∈ (toString n).toList, IsPrintable c := by
  intro c hc
  have hdigits : c ∈ Nat.toDigits 10 n := by
    rwa [← Nat.toList_repr]
  exact isPrintable_of_isDigit (Nat.isDigit_of_mem_toDigits (by decide) (by decide) hdigits)

end CompileFlags.Text
