import CompileFlags.Proofs.Text.Sequences

set_option autoImplicit false

namespace CompileFlags.Text

variable {limit : Nat} {s t x : List Char} {rs : List Run}

def codes (s : List Char) : List Char :=
  (runs s).flatMap Run.escapes

theorem escapes_showFirst (c : Char) (rs : List Run) :
    (showFirst c rs).flatMap Run.escapes = rs.flatMap Run.escapes := by
  unfold showFirst
  split <;> rfl

theorem escapes_escapeFirst (c : Char) (rs : List Run) :
    (escapeFirst c rs).flatMap Run.escapes = c :: rs.flatMap Run.escapes := by
  unfold escapeFirst
  split <;> rfl

theorem escapes_foldr_escapeFirst (x : List Char) (rs : List Run) :
    (x.foldr escapeFirst rs).flatMap Run.escapes = x ++ rs.flatMap Run.escapes := by
  induction x with
  | nil => rfl
  | cons c x ih => rw [List.foldr_cons, escapes_escapeFirst, ih, List.cons_append]

theorem codes_shown {c : Char} (h : escapeLength (c :: s) = 0) : codes (c :: s) = codes s := by
  rw [codes, runs_shown h, escapes_showFirst, codes]

theorem codes_escape (hx : x ≠ []) (h : escapeLength (x ++ s) = x.length) :
    codes (x ++ s) = x ++ codes s := by
  rw [codes, runs_escape hx h, escapes_foldr_escapeFirst, codes]

theorem codes_sublist (s : List Char) : (codes s).Sublist s := by
  have hchars : (runs s).flatMap Run.chars = s := chars_runsFrom 0 s
  suffices hruns : ∀ rs : List Run,
      (rs.flatMap Run.escapes).Sublist (rs.flatMap Run.chars) by
    have hsub := hruns (runs s)
    rwa [hchars] at hsub
  intro rs
  induction rs with
  | nil => exact .slnil
  | cons run rs ih =>
    rw [List.flatMap_cons, List.flatMap_cons]
    cases run with
    | shown s => exact ih.trans (List.sublist_append_right _ _)
    | escape s => exact ih.append_left _

theorem goesOn_of_isEscape {c : Char} (h : isEscape c = true) : goesOn c = false := by
  have hcode : c.toNat = 0x1b ∨ c.toNat = 0x9b := by
    simp only [isEscape, Bool.or_eq_true, beq_iff_eq] at h
    exact h.imp (congrArg Char.toNat) id
  obtain rfl | rfl : c = Char.ofNat 0x1b ∨ c = Char.ofNat 0x9b :=
    hcode.imp (fun hc => by rw [← hc, Char.ofNat_toNat]) fun hc => by rw [← hc, Char.ofNat_toNat]
  all_goals decide

theorem harmless_of_escapeLength (hx : x ≠ []) (h : escapeLength (x ++ s) = x.length)
    (t : List Char) : Harmless (x ++ t) := by
  obtain ⟨c, x, rfl⟩ := List.exists_cons_of_ne_nil hx
  cases hc : isEscape c with
  | true => exact harmless_cons.2 (goesOn_of_isEscape hc)
  | false =>
    rw [List.cons_append, escapeLength_of_not_isEscape hc] at h
    cases h

theorem Closed.codes (h : Closed [' '] s) : Closed [' '] (codes s) ∧ Harmless (codes s) := by
  have hne : [' '] ≠ [] := List.cons_ne_nil _ _
  induction h with
  | nil => exact ⟨.nil, harmless_nil⟩
  | shown h _ ih =>
    have halone := escapeLength_shown_alone h hne
    rwa [codes_shown halone]
  | @escape x s hx h _ ih =>
    have halone := escapeLength_whole_alone hx h hne
    rw [codes_escape hx halone]
    refine ⟨.escape hx ?_ ih.1, harmless_of_escapeLength hx h _⟩
    -- What comes next is another sequence or the space, and neither goes on this one.
    have hnext : Harmless (Text.codes s ++ [' ']) := ih.2.append (harmless_cons.2 rfl)
    exact escapeLength_whole (s := []) hx h (by simp) hnext

theorem exists_showFirst (c : Char) (rs : List Run) :
    ∃ t rest, showFirst c rs = .shown (c :: t) :: rest := by
  unfold showFirst
  split
  · exact ⟨_, _, rfl⟩
  · exact ⟨[], _, rfl⟩

theorem exists_foldr_escapeFirst (hx : x ≠ []) (rs : List Run) :
    ∃ t rest, x.foldr escapeFirst rs = .escape t :: rest := by
  obtain ⟨c, x, rfl⟩ := List.exists_cons_of_ne_nil hx
  rw [List.foldr_cons]
  unfold escapeFirst
  split <;> exact ⟨_, _, rfl⟩

theorem showFirst_eq_cons {c d : Char} {rest : List Run}
    (h : showFirst c rs = .shown (d :: t) :: rest) :
    c = d ∧ (rs = .shown t :: rest ∨ t = [] ∧ rs = rest) := by
  unfold showFirst at h
  split at h
  · cases h
    exact ⟨rfl, .inl rfl⟩
  · cases h
    exact ⟨rfl, .inr ⟨rfl, rfl⟩⟩

theorem Closed.cut {p q : List Char} (h : Closed [' '] s) (hruns : runs s = .shown (p ++ q) :: rs) :
    ∃ r, s = p ++ r ∧ Closed (r ++ [' ']) p ∧ Closed [' '] r ∧ Text.codes r = Text.codes s ∧
      (q = [] → runs r = rs) := by
  have hne : [' '] ≠ [] := List.cons_ne_nil _ _
  induction h generalizing p with
  | nil => cases hruns
  | @shown c s h hs ih =>
    have halone := escapeLength_shown_alone h hne
    rw [runs_shown halone] at hruns
    cases p with
    | nil =>
      refine ⟨c :: s, rfl, .nil, .shown h hs, rfl, ?_⟩
      rintro rfl
      obtain ⟨t, rest, hfirst⟩ := exists_showFirst c (runs s)
      rw [hfirst] at hruns
      cases hruns
    | cons d p =>
      obtain ⟨rfl, hrest | ⟨hempty, hrest⟩⟩ := showFirst_eq_cons hruns
      · obtain ⟨r, rfl, hp, hr, hcodes, hruns⟩ := ih hrest
        rw [List.append_assoc] at h
        exact ⟨r, rfl, .shown h hp, hr, hcodes.trans (codes_shown halone).symm, hruns⟩
      · obtain ⟨rfl, rfl⟩ := List.append_eq_nil_iff.1 hempty
        exact ⟨s, rfl, .shown h .nil, hs, (codes_shown halone).symm, fun _ => hrest⟩
  | @escape x s hx h hs ih =>
    have halone := escapeLength_whole_alone hx h hne
    obtain ⟨t, rest, hfirst⟩ := exists_foldr_escapeFirst hx (runs s)
    rw [runs_escape hx halone, hfirst] at hruns
    cases hruns

theorem clipRuns_foldr_escapeFirst (x : List Char) (rs : List Run) :
    clipRuns limit (x.foldr escapeFirst rs) = x ++ clipRuns limit rs := by
  induction x with
  | nil => rfl
  | cons c x ih =>
    rw [List.foldr_cons, List.cons_append, ← ih]
    generalize x.foldr escapeFirst rs = rest
    unfold escapeFirst
    split <;> simp [clipRuns]

/-- What a cut leaves of a closed text: a start of it, dots, and the sequences of its end. -/
structure IsCut (s clipped front rest : List Char) : Prop where
  eq_append : s = front ++ rest
  clipped_eq : clipped = front ++ dots ++ codes rest
  front_closed : Closed (rest ++ [' ']) front
  rest_closed : Closed [' '] rest

theorem IsCut.prepend {clipped front rest : List Char} (h : IsCut s clipped front rest)
    (hx : Closed (s ++ [' ']) x) : IsCut (x ++ s) (x ++ clipped) (x ++ front) rest := by
  obtain ⟨rfl, rfl, hfront, hrest⟩ := h
  refine ⟨(List.append_assoc ..).symm, ?_, ?_, hrest⟩
  · simp only [List.append_assoc]
  · exact .append (by rwa [← List.append_assoc]) hfront

theorem Closed.clipRuns (h : Closed [' '] s) (hwide : limit < columns s) :
    ∃ front rest, IsCut s (clipRuns limit (runs s)) front rest := by
  have hne : [' '] ≠ [] := List.cons_ne_nil _ _
  -- The parts of the text are its sequences and, between them, whole runs that are shown.
  generalize hn : s.length = n
  induction n using Nat.strongRecOn generalizing s limit with
  | ind n ih =>
    subst hn
    cases h with
    | nil => exact absurd hwide (Nat.not_lt_zero limit)
    | @shown c s h hs =>
      have halone := escapeLength_shown_alone h hne
      obtain ⟨t, rs, hruns⟩ : ∃ t rs, runs (c :: s) = .shown (c :: t) :: rs := by
        rw [runs_shown halone]
        exact exists_showFirst c (runs s)
      have hall : Closed [' '] (c :: s) := .shown h hs
      have hcolumns : columns (c :: s) = width (c :: t) + widthOf rs := by
        rw [columns, hruns]
        rfl
      rw [hruns, Text.clipRuns]
      by_cases hfits : width (c :: t) ≤ limit
      · rw [if_pos hfits]
        obtain ⟨r, heq, hp, hr, -, hrest⟩ :=
          hall.cut (p := c :: t) (q := []) (by rw [hruns, List.append_nil])
        obtain rfl := hrest rfl
        have hless : r.length < (c :: s).length := by
          rw [heq, List.length_append, List.length_cons]
          omega
        have hover : limit - width (c :: t) < columns r := by
          have hr : columns r = widthOf (runs r) := rfl
          omega
        obtain ⟨front, rest, hcut⟩ := ih r.length hless hr hover rfl
        rw [heq]
        exact ⟨_, rest, hcut.prepend hp⟩
      · rw [if_neg hfits]
        obtain ⟨q, hq⟩ := takeColumns_prefix limit (c :: t)
        obtain ⟨r, heq, hp, hr, hcodes, -⟩ := hall.cut (by rw [hruns, hq])
        refine ⟨_, r, heq, ?_, hp, hr⟩
        rw [hcodes, Text.codes, hruns]
        rfl
    | @escape x s hx h hs =>
      have halone := escapeLength_whole_alone hx h hne
      have hless : s.length < (x ++ s).length := by
        have hpos := List.length_pos_iff.2 hx
        rw [List.length_append]
        omega
      rw [columns_eq_scan, scan_escape hx halone, ← columns_eq_scan] at hwide
      obtain ⟨front, rest, hcut⟩ := ih s.length hless hs hwide rfl
      have hclosed : Closed (s ++ [' ']) (x ++ []) := .escape hx h .nil
      rw [List.append_nil] at hclosed
      rw [runs_escape hx halone, clipRuns_foldr_escapeFirst]
      exact ⟨_, rest, hcut.prepend hclosed⟩

theorem Closed.isCut_clip (h : Closed [' '] s) (hwide : limit < columns s) :
    ∃ front rest, IsCut s (clip limit s) front rest := by
  rw [clip, if_neg (Nat.not_le.2 hwide)]
  exact h.clipRuns (Nat.lt_of_le_of_lt (Nat.sub_le _ _) hwide)

theorem IsCut.closed {clipped front rest : List Char} (h : IsCut s clipped front rest) :
    Closed [' '] clipped := by
  obtain ⟨-, rfl, hfront, hrest⟩ := h
  obtain ⟨hcodes, -⟩ := hrest.codes
  have hdots : Closed [' '] (dots ++ Text.codes rest) :=
    .shown rfl (.shown rfl (.shown rfl hcodes))
  rw [List.append_assoc]
  exact .append (hfront.congr (by simp) (harmless_cons.2 rfl)) hdots

theorem Closed.clip (h : Closed [' '] s) (limit : Nat) : Closed [' '] (clip limit s) := by
  by_cases hfits : columns s ≤ limit
  · rwa [clip_of_columns_le hfits]
  · obtain ⟨front, rest, hcut⟩ := h.isCut_clip (Nat.lt_of_not_le hfits)
    exact hcut.closed

end CompileFlags.Text
