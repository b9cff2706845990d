import CompileFlags.Text.Columns
import Mathlib.Tactic.SplitIfs

set_option autoImplicit false

namespace CompileFlags.Text

def Ahead.free : Ahead :=
  ⟨.plain, none⟩

/-- The columns counted for what is ahead that a character in front may take back. -/
def Front.owed : Front → Nat
  | .joinedIndicator | .joinedFlagsAndIndicator => 1
  | .letter .khmerLetter _ | .letter .tifinaghJoined _ => 1
  | _ => 0

def shift (k : Nat) (measured : Nat × Ahead) : Nat × Ahead :=
  (measured.1 + k, measured.2)

theorem selected?_add (c : Char) (w k : Nat) (a : Ahead) :
    selected? c (w + k) a = (selected? c w a).map (shift k) := by
  rcases a with ⟨front, _ | selector⟩
  · rfl
  · cases selector with
    | picture =>
      simp only [selected?]
      split
      · rfl
      · split
        · rfl
        · rw [Nat.add_right_comm]
          rfl
    | plain | wide =>
      simp only [selected?]
      split
      · rw [Nat.add_right_comm]
        rfl
      · rfl

theorem owed_selected? {c : Char} {w v : Nat} {a b : Ahead} (h : selected? c w a = some (v, b)) :
    b.front.owed ≤ v := by
  have hfront : b.front = .picture ∨ b.front = .plain := by
    unfold selected? at h
    split at h
    · cases h
    · split at h
      · cases h
      · split at h <;> cases h <;> exact .inl rfl
    · split at h <;> cases h
      exact .inr rfl
    · split at h <;> cases h
      exact .inr rfl
  rcases hfront with hfront | hfront <;> rw [hfront] <;> exact Nat.zero_le v

/-- What joining a character can come to, in front of a width and of one with `k` more behind it. -/
theorem joined?_cases (c : Char) {w : Nat} (k : Nat) {front : Front} (h : front.owed ≤ w) :
    (joined? c w front = none ∧ joined? c (w + k) front = none) ∨
    ∃ v f, f.owed ≤ v ∧ joined? c w front = some (v, f) ∧
      joined? c (w + k) front = some (v + k, f) := by
  have hkept : ∀ f : Front, f.owed ≤ w → ∃ v g, g.owed ≤ v ∧ some (w, f) = some (v, g) ∧
      some (w + k, f) = some (v + k, g) := fun f hf => ⟨w, f, hf, rfl, rfl⟩
  have hmore : ∀ (n : Nat) (f : Front), f.owed ≤ w + n → ∃ v g, g.owed ≤ v ∧
      some (w + n, f) = some (v, g) ∧ some (w + k + n, f) = some (v + k, g) :=
    fun n f hf => ⟨w + n, f, hf, rfl, by rw [Nat.add_right_comm]⟩
  have hless : 1 ≤ w → ∀ f : Front, f.owed = 0 → ∃ v g, g.owed ≤ v ∧
      some (w - 1, f) = some (v, g) ∧ some (w + k - 1, f) = some (v + k, g) :=
    fun hw f hf => ⟨w - 1, f, by omega, rfl, by rw [Nat.sub_add_comm hw]⟩
  have hnone : ∀ P : Prop, ((none : Option (Nat × Front)) = none ∧
      (none : Option (Nat × Front)) = none) ∨ P := fun _ => .inl ⟨rfl, rfl⟩
  cases front with
  | plain | joinedKeycap => exact hnone _
  | lineFeed | picture | tone | tagLetters | tagDigits | kiratTwoVowels | arabicAlef =>
    simp only [joined?]
    split_ifs
    all_goals first | exact hnone _ | exact .inr (hkept _ (Nat.zero_le w))
  | indicator | indicators | joined | kiratVowel =>
    simp only [joined?]
    split_ifs
    all_goals first
      | exact hnone _
      | exact .inr (hkept _ (Nat.zero_le w))
      | exact .inr (hmore 1 _ (by simp [Front.owed]))
  | joinedIndicator | joinedFlagsAndIndicator =>
    simp only [joined?]
    split_ifs
    all_goals first
      | exact hnone _
      | exact .inr (hkept _ (Nat.zero_le w))
      | exact .inr (hless h _ rfl)
  | joinedFlags =>
    simp only [joined?]
    split_ifs
    · exact .inr (hmore 3 _ (by simp [Front.owed]))
    · exact .inr (hkept _ (Nat.zero_le w))
    · exact hnone _
  | letter second withJoiner =>
    have hsame : ∀ b, (Front.letter second b).owed ≤ w := by
      cases second <;> exact fun _ => h
    by_cases hjoiner : c.toNat = joiner
    · simp only [joined?, if_pos hjoiner]
      exact .inr (hkept _ (hsame true))
    · by_cases hmark : isIgnoredMark c = true
      · simp only [joined?, if_neg hjoiner, if_pos hmark]
        exact .inr (hkept _ (hsame withJoiner))
      · simp only [joined?, if_neg hjoiner, if_neg hmark]
        cases second <;> cases withJoiner <;> dsimp only
        all_goals try split_ifs
        all_goals first
          | exact hnone _
          | exact .inr (hkept _ (Nat.zero_le w))
          | exact .inr (hless h _ rfl)
          | exact .inr (hmore 1 _ (by simp [Front.owed]))

theorem inRanges_eq_false {ranges : List (Nat × Nat)} {n : Nat}
    (h : ∀ range ∈ ranges, n < range.1 ∨ range.2 < n) : inRanges ranges n = false := by
  rw [inRanges, List.any_eq_false]
  intro range hrange hin
  have hout := h range hrange
  simp only [Bool.and_eq_true, decide_eq_true_eq] at hin
  omega

theorem width_of_isKhmerLetter {c : Char} (h : isKhmerLetter c = true) :
    isControl c = false ∧ 1 ≤ charWidth c := by
  have hcode : 0x1780 ≤ c.toNat ∧ c.toNat ≤ 0x17AF := by
    have hranges : ∀ range ∈ [(0x1780, 0x1782), (0x1784, 0x1787), (0x1789, 0x178C),
        (0x178E, 0x1793), (0x1795, 0x1798), (0x179B, 0x179D), (0x17A0, 0x17A0),
        (0x17A2, 0x17A2), (0x17A7, 0x17A7), (0x17AB, 0x17AC), (0x17AF, 0x17AF)],
        0x1780 ≤ range.1 ∧ range.2 ≤ 0x17AF := by decide
    obtain ⟨range, hrange, hin⟩ := List.any_eq_true.1 h
    have hbounds := hranges range hrange
    simp only [Bool.and_eq_true, decide_eq_true_eq] at hin
    omega
  have hzero : inRanges zeroWidthRanges c.toNat = false := by
    have hranges : ∀ range ∈ zeroWidthRanges, range.2 < 0x1780 ∨ 0x17AF < range.1 := by
      decide +kernel
    refine inRanges_eq_false fun range hrange => ?_
    have hbounds := hranges range hrange
    omega
  have hcontrol : isControl c = false := by
    simp only [isControl, within, Bool.or_eq_false_iff, Bool.and_eq_false_iff,
      decide_eq_false_iff_not]
    omega
  refine ⟨hcontrol, ?_⟩
  rw [charWidth, hcontrol, hzero, if_neg Bool.false_ne_true, if_neg Bool.false_ne_true]
  split_ifs <;> omega

theorem owed_le_one (front : Front) : front.owed ≤ 1 := by
  unfold Front.owed
  split <;> omega

/-- What a character in front of this one may take back is no more than what this one takes. -/
theorem owed_ofChar (c : Char) :
    (Front.ofChar c).owed ≤ if isControl c then 1 else charWidth c := by
  by_cases hkhmer : isKhmerLetter c = true
  · obtain ⟨hcontrol, hone⟩ := width_of_isKhmerLetter hkhmer
    rw [hcontrol, if_neg Bool.false_ne_true]
    exact Nat.le_trans (owed_le_one _) hone
  · have howed : (Front.ofChar c).owed = 0 := by
      rw [Front.ofChar, if_neg hkhmer]
      simp only [apply_ite Front.owed]
      simp only [Front.owed, ite_self]
    rw [howed]
    exact Nat.zero_le _

def Covered (measured : Nat × Ahead) : Prop :=
  measured.2.front.owed ≤ measured.1

theorem owed_unselect_le (a : Ahead) : a.unselect.front.owed ≤ a.front.owed := by
  unfold Ahead.unselect
  split_ifs
  · exact Nat.zero_le _
  · exact Nat.le_refl _

theorem owed_select_le (a : Ahead) (s : Selector) : (a.select s).front.owed ≤ a.front.owed := by
  unfold Ahead.select
  dsimp only
  split_ifs
  · exact Nat.le_refl _
  · exact Nat.zero_le _

theorem measureStep_shift (c : Char) (k : Nat) {m : Nat × Ahead} (h : Covered m) :
    measureStep c (shift k m) = shift k (measureStep c m) ∧ Covered (measureStep c m) := by
  obtain ⟨w, a⟩ := m
  simp only [shift, measureStep, selected?_add]
  cases hselected : selected? c w a with
  | some measured => exact ⟨rfl, owed_selected? hselected⟩
  | none =>
    cases hselector : Selector.ofChar? c with
    | some s =>
      refine ⟨rfl, ?_⟩
      exact Nat.le_trans (owed_select_le _ s) (Nat.le_trans (owed_unselect_le a) h)
    | none =>
      have howed : a.unselect.front.owed ≤ w := Nat.le_trans (owed_unselect_le a) h
      rcases joined?_cases c k howed with ⟨hw, hk⟩ | ⟨v, f, hf, hw, hk⟩
      · simp only [Option.map_none, hw, hk, Nat.add_right_comm, true_and]
        exact Nat.le_trans (owed_ofChar c) (Nat.le_add_left _ w)
      · simp only [Option.map_none, hw, hk, true_and]
        exact hf

theorem covered_free : Covered (0, Ahead.free) :=
  Nat.le_refl 0

theorem covered_measure (s : List Char) : Covered (measure s) := by
  induction s with
  | nil => exact covered_free
  | cons c s ih => exact (measureStep_shift c 0 ih).2

theorem measure_cons (c : Char) (s : List Char) : measure (c :: s) = measureStep c (measure s) :=
  rfl

def Rigid (c : Char) : Prop :=
  measureStep c (0, Ahead.free) = (1, Ahead.free)

instance (c : Char) : Decidable (Rigid c) :=
  inferInstanceAs (Decidable (_ = _))

theorem Rigid.measureStep {c : Char} (h : Rigid c) (k : Nat) :
    measureStep c (k, Ahead.free) = (k + 1, Ahead.free) := by
  have hshift : (k, Ahead.free) = shift k (0, Ahead.free) := by rw [shift, Nat.zero_add]
  rw [hshift, (measureStep_shift c k covered_free).1, h, shift, Nat.add_comm]

theorem measureStep_space (m : Nat × Ahead) : measureStep ' ' m = (m.1 + 1, Ahead.free) := by
  obtain ⟨w, a⟩ := m
  have hselected : selected? ' ' w a = none := by
    rcases a with ⟨front, _ | selector⟩
    · rfl
    · cases selector <;> rfl
  have htone : inRanges toneBaseRanges ' '.toNat = false := by decide +kernel
  have hpicture : isPicture ' ' = false := by decide +kernel
  have hmark : isArabicMark ' ' = false := by decide +kernel
  have hjoined : ∀ front : Front, joined? ' ' w front = none := by
    intro front
    cases front with
    | letter second withJoiner => cases second <;> cases withJoiner <;> rfl
    | tone | joined | arabicAlef =>
      simp only [joined?, htone, hpicture, hmark]
      rfl
    | _ => rfl
  have hselector : Selector.ofChar? ' ' = none := rfl
  have hwidth : charWidth ' ' = 1 := by decide +kernel
  rw [measureStep, hselected, hselector]
  simp only [hjoined, hwidth]
  rfl

end CompileFlags.Text
