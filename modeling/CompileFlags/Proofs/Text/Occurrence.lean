import CompileFlags.Text.Blank
import CompileFlags.Text.Find
import CompileFlags.Text.Lines
import Mathlib.Data.List.Infix
import Mathlib.Data.List.TakeWhile

set_option autoImplicit false

namespace CompileFlags.Text

/-- The first place of a marker in a text, with what stands before it and after it. -/
structure FirstAt (mark s before after : List Char) : Prop where
  eq : s = before ++ mark ++ after
  first : ∀ b a, s = b ++ mark ++ a → before.length ≤ b.length

variable {mark s before after : List Char}

theorem length_le_of_cut? (h : cut? mark s = some (before, after)) {b a : List Char}
    (hs : s = b ++ mark ++ a) : before.length ≤ b.length := by
  induction s generalizing before b with
  | nil =>
    simp only [cut?, Option.map_eq_some_iff, Prod.mk.injEq] at h
    obtain ⟨rest, -, rfl, -⟩ := h
    exact Nat.zero_le _
  | cons c s ih =>
    rw [cut?] at h
    split at h
    · simp only [Option.some.injEq, Prod.mk.injEq] at h
      rw [← h.1]
      exact Nat.zero_le _
    · next hnone =>
      simp only [Option.map_eq_some_iff, Prod.mk.injEq] at h
      obtain ⟨⟨found, rest⟩, hfound, rfl, rfl⟩ := h
      cases b with
      | nil =>
        have hhere := afterMark?_eq_some_iff.2 (by simpa using hs)
        rw [hnone] at hhere
        cases hhere
      | cons d b =>
        have htail : s = b ++ mark ++ a := by
          simp only [List.cons_append, List.cons.injEq] at hs
          exact hs.2
        exact Nat.succ_le_succ (ih hfound htail)

theorem firstAt_of_cut? (h : cut? mark s = some (before, after)) :
    FirstAt mark s before after :=
  ⟨append_of_cut? h, fun _ _ => length_le_of_cut? h⟩

theorem cut?_of_afterMark? {rest : List Char} (h : afterMark? mark s = some rest) :
    cut? mark s = some ([], rest) := by
  cases s with
  | nil => simp [cut?, h]
  | cons c s => simp [cut?, h]

theorem cut?_eq_none_iff : cut? mark s = none ↔ ¬ mark <:+: s := by
  constructor
  · rintro hnone ⟨before, after, rfl⟩
    induction before with
    | nil =>
      have hhere : afterMark? mark ([] ++ mark ++ after) = some after :=
        afterMark?_eq_some_iff.2 rfl
      rw [cut?_of_afterMark? hhere] at hnone
      cases hnone
    | cons c before ih =>
      simp only [List.cons_append, cut?] at hnone
      split at hnone
      · cases hnone
      · exact ih (by simpa using hnone)
  · intro hinfix
    cases h : cut? mark s with
    | none => rfl
    | some found => exact absurd ⟨found.1, found.2, (append_of_cut? h).symm⟩ hinfix

theorem FirstAt.occurs (h : FirstAt mark s before after) : mark <:+: s :=
  ⟨before, after, h.eq.symm⟩

theorem FirstAt.unique {b a : List Char} (h : FirstAt mark s before after)
    (h' : FirstAt mark s b a) : before = b ∧ after = a := by
  have hlength : before.length = b.length :=
    Nat.le_antisymm (h.first b a h'.eq) (h'.first before after h.eq)
  have heq : before ++ mark ++ after = b ++ mark ++ a := by rw [← h.eq, h'.eq]
  obtain ⟨hfront, hafter⟩ := List.append_inj heq (by simp [hlength])
  exact ⟨(List.append_inj hfront hlength).1, hafter⟩

theorem cut?_eq_some_iff : cut? mark s = some (before, after) ↔ FirstAt mark s before after := by
  constructor
  · exact firstAt_of_cut?
  · intro hfirst
    cases h : cut? mark s with
    | none => exact absurd hfirst.occurs (cut?_eq_none_iff.1 h)
    | some found =>
      obtain ⟨hbefore, hafter⟩ := (firstAt_of_cut? h).unique hfirst
      rw [← hbefore, ← hafter]

theorem contains_iff : contains mark s = true ↔ mark <:+: s := by
  rw [contains, Option.isSome_iff_ne_none, ne_eq, cut?_eq_none_iff, not_not]

/-- A marker that cannot overlap itself is first found right behind a text without it. -/
theorem firstAt_append {c : Char} {rest : List Char} (hc : c ∉ rest)
    (h : ¬ c :: rest <:+: before) (after : List Char) :
    FirstAt (c :: rest) (before ++ (c :: rest) ++ after) before after := by
  refine ⟨rfl, fun b a heq => ?_⟩
  rw [List.append_assoc, List.append_assoc, List.append_eq_append_iff] at heq
  rcases heq with ⟨t, rfl, -⟩ | ⟨t, rfl, hmark⟩
  · simp
  · cases t with
    | nil => simp
    | cons d t =>
      -- Here the occurrence starts inside the text before, and ends inside it or in the marker.
      rw [List.append_eq_append_iff] at hmark
      rcases hmark with ⟨u, hu, -⟩ | ⟨u, hu, hafter⟩
      · exact absurd ⟨b, u, by rw [hu, List.append_assoc]⟩ h
      · cases u with
        | nil =>
          rw [List.append_nil] at hu
          exact absurd ⟨b, [], by rw [hu, List.append_nil]⟩ h
        | cons e u =>
          simp only [List.cons_append, List.cons.injEq] at hu hafter
          refine absurd ?_ hc
          rw [hu.2, hafter.1]
          simp

variable {sep : Char}

theorem exists_prefix_splitOn (hsep : sep ∉ mark) (h : mark <+: s) :
    ∃ piece pieces, splitOn sep s = piece :: pieces ∧ mark <+: piece := by
  induction mark generalizing s with
  | nil =>
    obtain ⟨piece, pieces, hpieces⟩ := List.exists_cons_of_ne_nil (splitOn_ne_nil sep s)
    exact ⟨piece, pieces, hpieces, List.nil_prefix⟩
  | cons c mark ih =>
    obtain ⟨after, rfl⟩ := h
    have hc : c ≠ sep := fun heq => hsep (heq ▸ List.mem_cons_self)
    obtain ⟨piece, pieces, hpieces, hprefix⟩ :=
      ih (fun hmem => hsep (List.mem_cons_of_mem c hmem)) (List.prefix_append mark after)
    refine ⟨c :: piece, pieces, ?_, List.cons_prefix_cons.2 ⟨rfl, hprefix⟩⟩
    simp [splitOn, hc, hpieces]

/-- What has no separator stands in one of the pieces. -/
theorem exists_infix_splitOn (hsep : sep ∉ mark) (h : mark <:+: s) :
    ∃ piece ∈ splitOn sep s, mark <:+: piece := by
  induction s with
  | nil => exact ⟨[], by simp [splitOn], h⟩
  | cons c s ih =>
    rcases List.infix_cons_iff.1 h with hprefix | hinfix
    · obtain ⟨piece, pieces, hpieces, hmark⟩ := exists_prefix_splitOn hsep hprefix
      exact ⟨piece, by simp [hpieces], hmark.isInfix⟩
    · obtain ⟨piece, hpiece, hmark⟩ := ih hinfix
      by_cases hc : c = sep
      · exact ⟨piece, by simp [splitOn, hc, hpiece], hmark⟩
      · cases hpieces : splitOn sep s with
        | nil => exact absurd hpieces (splitOn_ne_nil sep s)
        | cons first pieces =>
          rw [hpieces] at hpiece
          rcases List.mem_cons.1 hpiece with rfl | hmem
          · exact ⟨c :: piece, by simp [splitOn, hc, hpieces], List.infix_cons hmark⟩
          · exact ⟨piece, by simp [splitOn, hc, hpieces, hmem], hmark⟩

theorem exists_dropWhile_append (hne : mark ≠ []) (hmark : mark.head?.any isBlank = false)
    (before after : List Char) :
    ∃ b, (before ++ (mark ++ after)).dropWhile isBlank = b ++ (mark ++ after) := by
  obtain ⟨c, rest, rfl⟩ := List.exists_cons_of_ne_nil hne
  have hc : isBlank c = false := by simpa using hmark
  rw [List.dropWhile_append]
  split
  · exact ⟨[], by simp [hc]⟩
  · exact ⟨_, rfl⟩

theorem infix_trimChars (hfront : mark.head?.any isBlank = false)
    (hback : mark.getLast?.any isBlank = false) (h : mark <:+: s) : mark <:+: trimChars s := by
  by_cases hne : mark = []
  · rw [hne]
    exact List.nil_infix
  · obtain ⟨before, after, rfl⟩ := h
    obtain ⟨b, hb⟩ := exists_dropWhile_append hne hfront before after
    have hreverse : (b ++ (mark ++ after)).reverse =
        after.reverse ++ (mark.reverse ++ b.reverse) := by simp
    obtain ⟨a, ha⟩ := exists_dropWhile_append (List.reverse_ne_nil_iff.2 hne)
      (by rwa [List.head?_reverse]) after.reverse b.reverse
    rw [trimChars, List.append_assoc, hb, hreverse, ha]
    exact ⟨b, a.reverse, by simp⟩

theorem trimChars_infix (s : List Char) : trimChars s <:+: s := by
  have hfront := (s.dropWhile_suffix isBlank).isInfix
  have hback := ((s.dropWhile isBlank).reverse.dropWhile_suffix isBlank).isInfix
  have hreverse := List.reverse_infix.2 hback
  rw [List.reverse_reverse] at hreverse
  exact hreverse.trans hfront

theorem infix_trimChars_iff (hfront : mark.head?.any isBlank = false)
    (hback : mark.getLast?.any isBlank = false) : mark <:+: trimChars s ↔ mark <:+: s :=
  ⟨fun h => h.trans <| trimChars_infix s, infix_trimChars hfront hback⟩

theorem trimChars_of_isBlank (h : ∀ c ∈ s, isBlank c = true) : trimChars s = [] := by
  have hnone : s.dropWhile isBlank = [] := List.dropWhile_eq_nil_iff.2 h
  rw [trimChars, hnone]
  rfl

theorem trimChars_append_blanks {left right : List Char} (hleft : ∀ c ∈ left, isBlank c = true)
    (hright : ∀ c ∈ right, isBlank c = true) (s : List Char) :
    trimChars (left ++ s ++ right) = trimChars s := by
  have hfront : ∀ t, trimChars (left ++ t) = trimChars t := by
    intro t
    rw [trimChars, List.dropWhile_append_of_pos hleft, trimChars]
  rw [List.append_assoc, hfront]
  induction right using List.reverseRecOn with
  | nil => rw [List.append_nil]
  | append_singleton right c ih =>
    have hc : isBlank c = true := hright c (by simp)
    rw [← List.append_assoc, trimChars_concat_of_isBlank hc]
    exact ih fun d hd => hright d (List.mem_append_left _ hd)

end CompileFlags.Text
