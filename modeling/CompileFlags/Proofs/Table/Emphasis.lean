import CompileFlags.Proofs.Text.Sequences
import CompileFlags.Table

set_option autoImplicit false

namespace CompileFlags.Table

open Text

variable {x y b s : List Char}

theorem boldInside_boldOff (s : List Char) :
    boldInside (boldOff ++ s) = boldOff ++ (boldOn ++ boldInside s) :=
  rfl

theorem boldInside_cons {c : Char} (h : ∀ t, c :: s ≠ boldOff ++ t) :
    boldInside (c :: s) = c :: boldInside s := by
  rw [boldInside]
  rintro t rfl rfl
  exact h t rfl

theorem boldInside_cons_of_ne {c : Char} (h : c ≠ '\x1b') :
    boldInside (c :: s) = c :: boldInside s :=
  boldInside_cons fun _ heq => h (List.cons.inj heq).1

theorem boldInside_append_of_ne (h : ∀ c ∈ x, c ≠ '\x1b') (s : List Char) :
    boldInside (x ++ s) = x ++ boldInside s := by
  induction x with
  | nil => rfl
  | cons c x ih =>
    rw [List.forall_mem_cons] at h
    rw [List.cons_append, boldInside_cons_of_ne h.1, ih h.2, List.cons_append]

theorem head?_boldInside (s : List Char) : (boldInside s).head? = s.head? := by
  fun_cases boldInside s <;> rfl

theorem exists_boldInside_cons (c : Char) (s : List Char) :
    ∃ t, boldInside (c :: s) = c :: t ∧ t.head? = s.head? := by
  by_cases h : ∃ t, c :: s = boldOff ++ t
  · obtain ⟨t, ht⟩ := h
    obtain ⟨rfl, rfl⟩ := List.cons.inj ht
    exact ⟨_, rfl, rfl⟩
  · exact ⟨boldInside s, boldInside_cons (not_exists.1 h), head?_boldInside s⟩

theorem prefix_intercalate (sep first : List Char) (rest : List (List Char)) :
    first <+: sep.intercalate (first :: rest) := by
  cases rest with
  | nil => simp only [List.intercalate_singleton, List.prefix_rfl]
  | cons second rest => simp only [List.intercalate_cons_cons, List.append_assoc, List.prefix_append]

theorem intercalate_cons_head (sep : List Char) (c : Char) (first : List Char)
    (rest : List (List Char)) :
    sep.intercalate ((c :: first) :: rest) = c :: sep.intercalate (first :: rest) := by
  cases rest with
  | nil => simp only [List.intercalate_singleton]
  | cons second rest => simp only [List.intercalate_cons_cons, List.cons_append]

/-- The emphasis is put on again behind each piece of a text but the last. -/
theorem exists_pieces (s : List Char) : ∃ first rest,
    (∀ piece ∈ first :: rest, ¬ boldOff <:+: piece) ∧ s = boldOff.intercalate (first :: rest) ∧
      boldInside s = (boldOff ++ boldOn).intercalate (first :: rest) := by
  fun_induction boldInside s with
  | case1 => exact ⟨[], [], by decide, rfl, rfl⟩
  | case2 s ih =>
    obtain ⟨first, rest, hwhole, hs, hinside⟩ := ih
    refine ⟨[], first :: rest, List.forall_mem_cons.2 ⟨by decide, hwhole⟩, ?_, ?_⟩
    · rw [List.intercalate_cons_cons, ← hs]
      rfl
    · rw [List.intercalate_cons_cons, ← hinside]
      rfl
  | case3 c s hstart ih =>
    obtain ⟨first, rest, hwhole, hs, hinside⟩ := ih
    rw [List.forall_mem_cons] at hwhole
    have hfirst : ¬ boldOff <:+: c :: first := by
      rw [List.infix_cons_iff]
      rintro (⟨more, hmore⟩ | hlater)
      · obtain ⟨behind, hbehind⟩ := hs ▸ prefix_intercalate boldOff first rest
        obtain ⟨rfl, rfl⟩ := List.cons.inj hmore
        exact hstart _ rfl hbehind.symm
      · exact hwhole.1 hlater
    exact ⟨c :: first, rest, List.forall_mem_cons.2 ⟨hfirst, hwhole.2⟩,
      by rw [intercalate_cons_head, ← hs], by rw [intercalate_cons_head, ← hinside]⟩

theorem numbersLength_boldInside (digits : Nat) (s : List Char) :
    numbersLength digits (boldInside s) = numbersLength digits s := by
  fun_induction boldInside s generalizing digits with
  | case1 => rfl
  | case2 rest ih => rfl
  | case3 c rest h ih => simp only [numbersLength, ih]

theorem openingLength_boldInside (s : List Char) :
    openingLength (boldInside s) = openingLength s := by
  fun_induction boldInside s with
  | case1 => rfl
  | case2 rest ih => rfl
  | case3 c rest h ih => simp only [openingLength, numbersLength_boldInside, ih]

/-- Emphasis changes no sequence that is not a command string. -/
theorem escapeLength_cons_boldInside (hb : Harmless b) (c : Char)
    (hs : ∀ d ∈ s.head?, commandBell? d = none) :
    escapeLength (c :: (boldInside s ++ b)) = escapeLength (c :: s) := by
  cases hc : isEscape c with
  | false => rw [escapeLength_of_not_isEscape hc, escapeLength_of_not_isEscape hc]
  | true =>
    cases s with
    | nil =>
      rw [escapeLength_cons_of_harmless harmless_nil]
      exact escapeLength_cons_of_harmless hb c
    | cons d s =>
      have hd : commandBell? d = none := hs d rfl
      obtain ⟨t, ht, hhead⟩ := exists_boldInside_cons d s
      have hopening : openingLength (d :: (t ++ b)) = openingLength (d :: s) := by
        rw [← openingLength_boldInside (d :: s), ht, ← List.cons_append]
        exact openingLength_append_harmless hb (d :: t)
      have hcharset : IsCharset d (t ++ b).head? ↔ IsCharset d s.head? := by
        rw [← hhead]
        cases t with
        | nil => exact iff_of_false (hb.not_isCharset d) (harmless_nil.not_isCharset d)
        | cons e t => rfl
      rw [ht, List.cons_append, escapeLength_numbers hc hd, escapeLength_numbers hc hd, hopening]
      simp only [hcharset]

theorem goesOn_of_isDigit {c : Char} (h : c.isDigit = true) : goesOn c = true := by
  simp [goesOn, h]

theorem goesOn_of_isFinal {c : Char} (h : isFinal c = true) : goesOn c = true := by
  simp [goesOn, h]

theorem goesOn_of_isOpening {c : Char} (h : isOpening c = true) : goesOn c = true := by
  simp [goesOn, h]

theorem forall_mem_take_andThen {c : Char} (hc : goesOn c = true) {n : Nat}
    (h : ∀ d ∈ s.take n, goesOn d = true) : ∀ d ∈ (c :: s).take (andThen n), goesOn d = true := by
  cases n with
  | zero => simp [andThen]
  | succ n =>
    rw [andThen, List.take_succ_cons, List.forall_mem_cons]
    exact ⟨hc, h⟩

theorem forall_mem_take_one {c : Char} (hc : goesOn c = true) (s : List Char) :
    ∀ d ∈ (c :: s).take 1, goesOn d = true := by
  simpa using hc

theorem goesOn_of_mem_numbers (digits : Nat) (s : List Char) :
    ∀ c ∈ s.take (numbersLength digits s), goesOn c = true := by
  induction s generalizing digits with
  | nil => simp
  | cons c s ih =>
    rw [numbersLength]
    split
    · next hdigit =>
      rw [Nat.add_comm, List.take_succ_cons, List.forall_mem_cons]
      refine ⟨goesOn_of_isDigit hdigit, ?_⟩
      split
      · exact ih _
      · simp
    · split
      · next hsemicolon => exact forall_mem_take_andThen (hsemicolon ▸ rfl) (ih 0)
      · split
        · next hfinal => exact forall_mem_take_one (goesOn_of_isFinal hfinal) s
        · simp

theorem goesOn_of_mem_opening (s : List Char) :
    ∀ c ∈ s.take (openingLength s), goesOn c = true := by
  induction s with
  | nil => simp
  | cons c s ih =>
    rw [openingLength]
    split
    · next hdigit =>
      rw [Nat.add_comm, List.take_succ_cons, List.forall_mem_cons]
      exact ⟨goesOn_of_isDigit hdigit, goesOn_of_mem_numbers 1 s⟩
    · split
      · next hopening => exact forall_mem_take_andThen (goesOn_of_isOpening hopening) ih
      · split
        · next hfinal => exact forall_mem_take_one (goesOn_of_isFinal hfinal) s
        · simp

theorem stringLength_boldOff (bell escaped : Bool) (s : List Char) :
    stringLength bell escaped (boldOff ++ s) = 4 + stringLength bell false s := by
  cases escaped <;> simp [stringLength, boldOff] <;> omega

theorem stringLength_boldOn (bell : Bool) (s : List Char) :
    stringLength bell false (boldOn ++ s) = 4 + stringLength bell false s := by
  simp [stringLength, boldOn]
  omega

theorem exists_boldInside_string {bell escaped : Bool} (hy : y ≠ [])
    (h : stringLength bell escaped (x ++ y) = x.length) (s : List Char) :
    ∃ t, boldInside (x ++ s) = t ++ boldInside s ∧
      ∀ b, stringLength bell escaped (t ++ b) = t.length := by
  generalize hn : x.length = n
  induction n using Nat.strongRecOn generalizing x escaped with
  | ind n ih =>
    subst hn
    cases x with
    | nil =>
      obtain ⟨c, y, rfl⟩ := List.exists_cons_of_ne_nil hy
      rw [List.nil_append, stringLength_cons, List.length_nil] at h
      split at h <;> omega
    | cons c x =>
      by_cases hoff : ∃ t, c :: x ++ s = boldOff ++ t
      · obtain ⟨r, hr⟩ := hoff
        rcases List.append_eq_append_iff.1 hr with ⟨z, hz, -⟩ | ⟨z, hz, -⟩
        · -- The string cannot end within these characters.
          have hany := stringLength_append hy (Nat.le_of_eq h) (z ++ y)
          rw [← List.append_assoc, ← hz, stringLength_boldOff, h] at hany
          have hlength := congrArg List.length hz
          rw [List.length_append] at hlength
          obtain ⟨d, y, rfl⟩ := List.exists_cons_of_ne_nil hy
          rw [stringLength_cons] at hany
          simp only [boldOff, List.length_cons, List.length_nil] at hlength hany
          split at hany <;> omega
        · rw [hz, List.append_assoc, stringLength_boldOff, List.length_append] at h
          have hlength : boldOff.length = 4 := rfl
          have hrest : stringLength bell false (z ++ y) = z.length := by omega
          obtain ⟨t, ht, hwhole⟩ := ih z.length (by rw [hz, List.length_append]; omega) hrest rfl
          refine ⟨boldOff ++ (boldOn ++ t), ?_, fun b => ?_⟩
          · rw [hz, List.append_assoc, boldInside_boldOff, ht]
            simp only [List.append_assoc]
          · rw [List.append_assoc, List.append_assoc, stringLength_boldOff, stringLength_boldOn,
              hwhole, List.length_append, List.length_append]
            rfl
      · rw [List.cons_append, stringLength_cons, List.length_cons] at h
        rw [List.cons_append] at hoff ⊢
        rw [boldInside_cons (not_exists.1 hoff)]
        by_cases hmark : endsString bell escaped c = true
        · rw [if_pos hmark] at h
          obtain rfl : x = [] := List.eq_nil_of_length_eq_zero (by omega)
          refine ⟨[c], rfl, fun b => ?_⟩
          rw [List.cons_append, stringLength_cons, if_pos hmark, List.length_singleton]
        · rw [if_neg hmark] at h
          have hrest : stringLength bell (!escaped && c = '\x1b') (x ++ y) = x.length := by omega
          obtain ⟨t, ht, hwhole⟩ := ih x.length (Nat.lt_succ_self _) hrest rfl
          refine ⟨c :: t, by rw [ht, List.cons_append], fun b => ?_⟩
          rw [List.cons_append, stringLength_cons, if_neg hmark, hwhole, List.length_cons,
            Nat.add_comm]

theorem escapeLength_boldOff (s : List Char) : escapeLength (boldOff ++ s) = 4 :=
  rfl

theorem escapeLength_boldOn (s : List Char) : escapeLength (boldOn ++ s) = 4 :=
  rfl

theorem scan_boldOff (s : List Char) : scan (boldOff ++ s) = ((scan s).1, Ahead.free) :=
  scan_escape (List.cons_ne_nil _ _) (escapeLength_boldOff s)

theorem scan_boldOn (s : List Char) : scan (boldOn ++ s) = ((scan s).1, Ahead.free) :=
  scan_escape (List.cons_ne_nil _ _) (escapeLength_boldOn s)

theorem goesOn_of_mem_sequence {c d : Char} (hc : isEscape c = true) (hd : commandBell? d = none)
    (h : escapeLength (c :: d :: (x ++ s)) = x.length + 2) : ∀ e ∈ d :: x, goesOn e = true := by
  rw [escapeLength_numbers hc hd] at h
  split at h
  · next hcharset =>
    obtain ⟨e, rfl⟩ := List.length_eq_one_iff.1 (show x.length = 1 by omega)
    obtain ⟨hopening, hdigit⟩ := hcharset
    rw [List.cons_append, List.head?_cons, Option.some.injEq, Option.some.injEq,
      Option.some.injEq] at hdigit
    rw [List.forall_mem_cons, List.forall_mem_singleton]
    constructor
    · rcases hopening with rfl | rfl <;> rfl
    · rcases hdigit with rfl | rfl | rfl <;> rfl
  · have hlength : openingLength (d :: (x ++ s)) = (d :: x).length := by
      rw [List.length_cons]
      cases hopening : openingLength (d :: (x ++ s)) with
      | zero =>
        rw [hopening, andThen] at h
        omega
      | succ n =>
        rw [hopening, andThen] at h
        omega
    have hall := goesOn_of_mem_opening (d :: (x ++ s))
    rwa [hlength, ← List.cons_append, List.take_left] at hall

theorem exists_boldInside_command {c d : Char} {bell : Bool} (hc : isEscape c = true)
    (hd : commandBell? d = some bell)
    (h : escapeLength (c :: d :: (x ++ (s ++ y))) = x.length + 2) (hy : y ≠ []) :
    ∃ t, boldInside (c :: d :: (x ++ s)) = t ++ boldInside s ∧
      ∀ b, scan (t ++ (boldInside s ++ b)) = ((scan (boldInside s ++ b)).1, Ahead.free) := by
  rw [escapeLength_command hc hd] at h
  have hstring : stringLength bell false (x ++ (s ++ y)) = x.length := by omega
  obtain ⟨t, ht, hwhole⟩ := exists_boldInside_string (by simp [hy]) hstring s
  have hbracket : d ≠ '[' := by
    rintro rfl
    cases hd
  have hescape : d ≠ '\x1b' := by
    rintro rfl
    cases hd
  refine ⟨c :: d :: t, ?_, fun b => ?_⟩
  · rw [boldInside_cons fun r hr => hbracket (List.cons.inj (List.cons.inj hr).2).1,
      boldInside_cons_of_ne hescape, ht]
    rfl
  · refine scan_escape (List.cons_ne_nil _ _) ?_
    rw [List.cons_append, List.cons_append, escapeLength_command hc hd, hwhole]
    exact Nat.add_comm 2 t.length

/-- A sequence of numbers stays as it is, but where it ends the emphasis, and that is put on again
behind it. -/
theorem exists_boldInside_numbers {c d : Char} (hc : isEscape c = true)
    (hd : commandBell? d = none) (h : escapeLength (c :: d :: (x ++ s)) = x.length + 2) :
    ∃ t, boldInside (c :: d :: (x ++ s)) = t ++ boldInside s ∧
      ∀ b, Harmless b →
        scan (t ++ (boldInside s ++ b)) = ((scan (boldInside s ++ b)).1, Ahead.free) := by
  by_cases hoff : ∃ r, c :: d :: (x ++ s) = boldOff ++ r
  · obtain ⟨r, hr⟩ := hoff
    rw [hr, escapeLength_boldOff] at h
    have hlength : (c :: d :: x).length = boldOff.length := by
      simp only [boldOff, List.length_cons, List.length_nil]
      omega
    have hsplit : (c :: d :: x) ++ s = boldOff ++ r := hr
    obtain ⟨-, rfl⟩ := List.append_inj hsplit hlength
    refine ⟨boldOff ++ boldOn, ?_, fun b _ => ?_⟩
    · rw [hr, boldInside_boldOff, List.append_assoc]
    · rw [List.append_assoc, scan_boldOff, scan_boldOn]
  · have hnone : ∀ e ∈ d :: x, e ≠ '\x1b' := by
      intro e he heq
      have hgoes := goesOn_of_mem_sequence hc hd h e he
      rw [heq] at hgoes
      exact absurd hgoes (by decide)
    have hinside := boldInside_append_of_ne hnone s
    refine ⟨c :: d :: x, ?_, fun b hb => ?_⟩
    · rw [boldInside_cons (not_exists.1 hoff)]
      exact congrArg (c :: ·) hinside
    · refine scan_escape (List.cons_ne_nil _ _) ?_
      have hsame := escapeLength_cons_boldInside hb c (s := d :: x ++ s) fun e he => by
        obtain rfl := Option.some.inj he
        exact hd
      rw [hinside, List.append_assoc] at hsame
      exact hsame.trans h

theorem exists_boldInside_escape (hx : x ≠ []) (h : escapeLength (x ++ (s ++ y)) = x.length)
    (hy : y ≠ []) :
    ∃ t, boldInside (x ++ s) = t ++ boldInside s ∧
      ∀ b, Harmless b →
        scan (t ++ (boldInside s ++ b)) = ((scan (boldInside s ++ b)).1, Ahead.free) := by
  obtain ⟨c, x, rfl⟩ := List.exists_cons_of_ne_nil hx
  have halone := escapeLength_whole_alone hx h hy
  cases hc : isEscape c with
  | false =>
    rw [List.cons_append, escapeLength_of_not_isEscape hc] at h
    cases h
  | true =>
    cases x with
    | nil => exact absurd h (escapeLength_ne_one _)
    | cons d x =>
      cases hd : commandBell? d with
      | some bell =>
        obtain ⟨t, ht, hskip⟩ := exists_boldInside_command hc hd h hy
        exact ⟨t, ht, fun b _ => hskip b⟩
      | none => exact exists_boldInside_numbers hc hd halone

theorem commandBell?_of_shown {c : Char} (hc : isEscape c = true) (h : escapeLength (c :: s) = 0) :
    ∀ d ∈ s.head?, commandBell? d = none := by
  intro d hd
  obtain ⟨s, rfl⟩ : ∃ t, s = d :: t := List.head?_eq_some_iff.1 hd
  cases hcommand : commandBell? d with
  | none => rfl
  | some bell =>
    rw [escapeLength_command hc hcommand] at h
    omega

theorem scan_boldInside (h : Closed y s) (hy : y ≠ []) (hb : Harmless b) {k : Nat}
    (hfree : scan b = (k, Ahead.free)) : scan (boldInside s ++ b) = shift k (scan s) := by
  induction h with
  | nil => rw [boldInside, List.nil_append, hfree, scan_nil, shift, Nat.zero_add]
  | @shown c s h _ ih =>
    have halone := escapeLength_shown_alone h hy
    have hinside : boldInside (c :: s) = c :: boldInside s := by
      refine boldInside_cons fun r hr => ?_
      rw [hr, escapeLength_boldOff] at halone
      cases halone
    have hshown : escapeLength (c :: (boldInside s ++ b)) = 0 := by
      cases hc : isEscape c with
      | false => exact escapeLength_of_not_isEscape hc _
      | true => rw [escapeLength_cons_boldInside hb c (commandBell?_of_shown hc halone), halone]
    rw [hinside, List.cons_append, scan_shown hshown, ih,
      (measureStep_shift c k (covered_scan s)).1, scan_shown halone]
  | @escape x s hx h _ ih =>
    have halone := escapeLength_whole_alone hx h hy
    obtain ⟨t, ht, hskip⟩ := exists_boldInside_escape hx h hy
    rw [ht, List.append_assoc, hskip b hb, ih, scan_escape hx halone]
    rfl

end CompileFlags.Table
