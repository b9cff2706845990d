import CompileFlags.Proofs.Text.Joining

set_option autoImplicit false

/-!
# Escape sequences in front of other text

How long a sequence is depends on what follows it. A text is closed in front of another one if each
of its sequences ends in it. A closed text stays closed in front of anything that goes on no
sequence, and there its columns add to those behind it.
-/

namespace CompileFlags.Text

variable {x y b s : List Char}

def goesOn (c : Char) : Bool :=
  c.isDigit || isOpening c || isFinal c || c == ']'

/-- A text that goes on no sequence in front of it. -/
def Harmless (s : List Char) : Prop :=
  ∀ c ∈ s.head?, goesOn c = false

theorem harmless_nil : Harmless [] := by
  simp [Harmless]

theorem harmless_cons {c : Char} : Harmless (c :: s) ↔ goesOn c = false := by
  simp [Harmless]

theorem Harmless.append (hx : Harmless x) (hb : Harmless b) : Harmless (x ++ b) := by
  cases x with
  | nil => exact hb
  | cons c x => exact harmless_cons.2 (harmless_cons.1 hx)

theorem le_of_andThen_le {n m : Nat} (h : andThen n ≤ m + 1) : n ≤ m := by
  cases n with
  | zero => exact Nat.zero_le m
  | succ n =>
    simp only [andThen] at h
    omega

theorem andThen_le {n m : Nat} (h : n ≤ m) : andThen n ≤ m + 1 := by
  cases n with
  | zero => exact Nat.zero_le _
  | succ n =>
    simp only [andThen]
    omega

theorem Harmless.not_goesOn {c : Char} (h : Harmless (c :: s)) :
    c.isDigit = false ∧ isOpening c = false ∧ isFinal c = false ∧ c ≠ ']' := by
  simpa [goesOn, and_assoc] using harmless_cons.1 h

theorem numbersLength_of_harmless (h : Harmless b) (digits : Nat) : numbersLength digits b = 0 := by
  cases b with
  | nil => rfl
  | cons c b =>
    obtain ⟨hdigit, hopening, hfinal, -⟩ := h.not_goesOn
    have hsemicolon : c ≠ ';' := by
      rintro rfl
      exact absurd hopening (by decide)
    simp [numbersLength, hdigit, hsemicolon, hfinal]

theorem openingLength_of_harmless (h : Harmless b) : openingLength b = 0 := by
  cases b with
  | nil => rfl
  | cons c b =>
    obtain ⟨hdigit, hopening, hfinal, -⟩ := h.not_goesOn
    simp [openingLength, hdigit, hopening, hfinal]

/-- Numbers that end before something else are read alike before anything harmless. -/
theorem numbersLength_append (hb : Harmless b) {digits : Nat}
    (h : numbersLength digits (x ++ y) ≤ x.length) :
    numbersLength digits (x ++ b) = numbersLength digits (x ++ y) := by
  induction x generalizing digits with
  | nil =>
    rw [List.nil_append, List.nil_append, numbersLength_of_harmless hb]
    exact (Nat.le_zero.1 h).symm
  | cons c x ih =>
    simp only [List.cons_append, numbersLength, List.length_cons] at h ⊢
    by_cases hdigit : c.isDigit = true
    · rw [if_pos hdigit] at h ⊢
      rw [if_pos hdigit]
      by_cases hfew : digits < 4
      · rw [if_pos hfew] at h ⊢
        rw [if_pos hfew, ih (by omega)]
      · rw [if_neg hfew, if_neg hfew]
    · rw [if_neg hdigit] at h ⊢
      rw [if_neg hdigit]
      by_cases hsemicolon : c = ';'
      · rw [if_pos hsemicolon] at h ⊢
        rw [if_pos hsemicolon, ih (le_of_andThen_le h)]
      · rw [if_neg hsemicolon, if_neg hsemicolon]

theorem openingLength_append (hb : Harmless b) (h : openingLength (x ++ y) ≤ x.length) :
    openingLength (x ++ b) = openingLength (x ++ y) := by
  induction x with
  | nil =>
    rw [List.nil_append, List.nil_append, openingLength_of_harmless hb]
    exact (Nat.le_zero.1 h).symm
  | cons c x ih =>
    simp only [List.cons_append, openingLength, List.length_cons] at h ⊢
    by_cases hdigit : c.isDigit = true
    · rw [if_pos hdigit] at h ⊢
      have hnumbers : numbersLength 1 (x ++ y) ≤ x.length := by omega
      rw [if_pos hdigit, numbersLength_append hb hnumbers]
    · rw [if_neg hdigit] at h ⊢
      rw [if_neg hdigit]
      by_cases hopening : isOpening c = true
      · rw [if_pos hopening] at h ⊢
        rw [if_pos hopening, ih (le_of_andThen_le h)]
      · rw [if_neg hopening, if_neg hopening]

theorem numbersLength_le (digits : Nat) (x : List Char) : numbersLength digits x ≤ x.length := by
  induction x generalizing digits with
  | nil => exact Nat.le_refl 0
  | cons c x ih =>
    rw [numbersLength, List.length_cons]
    split
    · split
      · have htail := ih (digits + 1)
        omega
      · omega
    · split
      · exact andThen_le (ih 0)
      · split <;> omega

theorem openingLength_le (x : List Char) : openingLength x ≤ x.length := by
  induction x with
  | nil => exact Nat.le_refl 0
  | cons c x ih =>
    rw [openingLength, List.length_cons]
    split
    · have htail := numbersLength_le 1 x
      omega
    · split
      · exact andThen_le ih
      · split <;> omega

theorem openingLength_append_harmless (hb : Harmless b) (x : List Char) :
    openingLength (x ++ b) = openingLength x := by
  have hle : openingLength (x ++ []) ≤ x.length := by
    rw [List.append_nil]
    exact openingLength_le x
  rw [openingLength_append hb hle, List.append_nil]

def endsString (bell escaped : Bool) (c : Char) : Bool :=
  if escaped then c == '\\' else c.toNat == 0x9c || bell && c == '\x07'

theorem stringLength_cons (bell escaped : Bool) (c : Char) (s : List Char) :
    stringLength bell escaped (c :: s) =
      if endsString bell escaped c then 1
      else 1 + stringLength bell (!escaped && c = '\x1b') s := by
  cases escaped with
  | true => by_cases hmark : c = '\\' <;> simp [stringLength, endsString, hmark]
  | false => simp [stringLength, endsString]

/-- A command string that ends before something else ends there before anything. -/
theorem stringLength_append {bell escaped : Bool} (hy : y ≠ [])
    (h : stringLength bell escaped (x ++ y) ≤ x.length) (b : List Char) :
    stringLength bell escaped (x ++ b) = stringLength bell escaped (x ++ y) := by
  induction x generalizing escaped with
  | nil =>
    obtain ⟨c, y, rfl⟩ := List.exists_cons_of_ne_nil hy
    rw [List.nil_append, stringLength_cons, List.length_nil] at h
    split at h <;> omega
  | cons c x ih =>
    rw [List.cons_append, stringLength_cons, List.length_cons] at h
    rw [List.cons_append, List.cons_append, stringLength_cons, stringLength_cons]
    by_cases hmark : endsString bell escaped c = true
    · rw [if_pos hmark, if_pos hmark]
    · rw [if_neg hmark] at h
      rw [if_neg hmark, if_neg hmark, ih (by omega)]

theorem stringLength_le (bell escaped : Bool) (x : List Char) :
    stringLength bell escaped x ≤ x.length := by
  induction x generalizing escaped with
  | nil => exact Nat.le_refl 0
  | cons c x ih =>
    have hrest := ih (!escaped && c = '\x1b')
    rw [stringLength_cons, List.length_cons]
    split <;> omega

theorem stringLength_of_lt_append {bell escaped : Bool}
    (h : x.length < stringLength bell escaped (x ++ y)) :
    stringLength bell escaped x = x.length := by
  induction x generalizing escaped with
  | nil => rfl
  | cons c x ih =>
    rw [List.cons_append, stringLength_cons, List.length_cons] at h
    rw [stringLength_cons, List.length_cons]
    by_cases hmark : endsString bell escaped c = true
    · rw [if_pos hmark] at h
      omega
    · rw [if_neg hmark] at h
      rw [if_neg hmark, ih (by omega), Nat.add_comm]

def commandBell? (d : Char) : Option Bool :=
  if d = ']' then some true else if d = 'P' then some false else none

def IsCharset (d : Char) (e : Option Char) : Prop :=
  (d = '(' ∨ d = ')') ∧ (e = some '0' ∨ e = some '1' ∨ e = some '2')

instance (d : Char) (e : Option Char) : Decidable (IsCharset d e) :=
  inferInstanceAs (Decidable (_ ∧ _))

theorem escapeLength_of_not_isEscape {c : Char} (h : isEscape c = false) (s : List Char) :
    escapeLength (c :: s) = 0 := by
  simp [escapeLength, h]

theorem escapeLength_command {c d : Char} {bell : Bool} (hc : isEscape c = true)
    (hd : commandBell? d = some bell) (s : List Char) :
    escapeLength (c :: d :: s) = 2 + stringLength bell false s := by
  unfold commandBell? at hd
  split at hd
  · next h =>
    obtain rfl := h
    obtain rfl := Option.some.inj hd
    simp [escapeLength, hc]
  · split at hd
    · next h =>
      obtain rfl := h
      obtain rfl := Option.some.inj hd
      simp [escapeLength, hc]
    · cases hd

theorem escapeLength_numbers {c d : Char} (hc : isEscape c = true) (hd : commandBell? d = none)
    (s : List Char) :
    escapeLength (c :: d :: s) =
      if IsCharset d s.head? then 3 else andThen (openingLength (d :: s)) := by
  have hmarks : d ≠ ']' ∧ d ≠ 'P' := by
    unfold commandBell? at hd
    split at hd
    · cases hd
    · split at hd
      · cases hd
      · exact ⟨by assumption, by assumption⟩
  by_cases hcharset : IsCharset d s.head?
  · rw [if_pos hcharset]
    obtain ⟨rfl | rfl, hdigit⟩ := hcharset
    all_goals
      cases s with
      | nil => simp at hdigit
      | cons e s =>
        rw [List.head?_cons, Option.some.injEq, Option.some.injEq, Option.some.injEq] at hdigit
        rcases hdigit with rfl | rfl | rfl <;> simp [escapeLength, hc]
  · rw [if_neg hcharset]
    unfold escapeLength
    dsimp only
    rw [hc, Bool.not_true, if_neg Bool.false_ne_true]
    split
    · next heq => cases heq; exact absurd ⟨.inl rfl, .inl rfl⟩ hcharset
    · next heq => cases heq; exact absurd ⟨.inl rfl, .inr (.inl rfl)⟩ hcharset
    · next heq => cases heq; exact absurd ⟨.inl rfl, .inr (.inr rfl)⟩ hcharset
    · next heq => cases heq; exact absurd ⟨.inr rfl, .inl rfl⟩ hcharset
    · next heq => cases heq; exact absurd ⟨.inr rfl, .inr (.inl rfl)⟩ hcharset
    · next heq => cases heq; exact absurd ⟨.inr rfl, .inr (.inr rfl)⟩ hcharset
    · next heq => exact absurd (List.cons.inj heq).1 hmarks.1
    · next heq => exact absurd (List.cons.inj heq).1 hmarks.2
    · rfl

theorem commandBell?_of_not_goesOn {d : Char} (h : goesOn d = false) : commandBell? d = none := by
  have hfinal : d ≠ ']' ∧ d ≠ 'P' := by
    constructor <;> rintro rfl <;> exact absurd h (by decide)
  rw [commandBell?, if_neg hfinal.1, if_neg hfinal.2]

theorem not_isCharset_of_not_goesOn {d : Char} (h : goesOn d = false) (e : Option Char) :
    ¬ IsCharset d e := by
  rintro ⟨rfl | rfl, -⟩ <;> exact absurd h (by decide)

theorem Harmless.not_isCharset (hb : Harmless b) (d : Char) : ¬ IsCharset d b.head? := by
  rintro ⟨-, he | he | he⟩ <;> exact absurd (hb _ he) (by decide)

/-- Alone in front of something harmless, the character that starts sequences starts none. -/
theorem escapeLength_cons_of_harmless (hb : Harmless b) (c : Char) :
    escapeLength (c :: b) = 0 := by
  by_cases hc : isEscape c = true
  · cases b with
    | nil => simp [escapeLength, openingLength, andThen]
    | cons d b =>
      have hd := harmless_cons.1 hb
      rw [escapeLength_numbers hc (commandBell?_of_not_goesOn hd),
        if_neg (not_isCharset_of_not_goesOn hd _), openingLength_of_harmless hb]
      rfl
  · exact escapeLength_of_not_isEscape (by simpa using hc) b

theorem escapeLength_ne_one (s : List Char) : escapeLength s ≠ 1 := by
  cases s with
  | nil => simp [escapeLength]
  | cons c s =>
    by_cases hc : isEscape c = true
    · cases s with
      | nil => simp [escapeLength, openingLength, andThen]
      | cons d s =>
        cases hd : commandBell? d with
        | some bell =>
          rw [escapeLength_command hc hd]
          omega
        | none =>
          rw [escapeLength_numbers hc hd]
          split
          · omega
          · cases openingLength (d :: s) with
            | zero => exact Nat.zero_ne_one
            | succ n =>
              simp only [andThen]
              omega
    · rw [escapeLength_of_not_isEscape (by simpa using hc)]
      exact Nat.zero_ne_one

/-- A sequence that ends before something else is read alike before anything harmless. -/
theorem escapeLength_append (hx : x ≠ []) (hy : y ≠ []) (hb : Harmless b)
    (h : escapeLength (x ++ y) ≤ x.length) : escapeLength (x ++ b) = escapeLength (x ++ y) := by
  obtain ⟨c, x, rfl⟩ := List.exists_cons_of_ne_nil hx
  cases x with
  | nil =>
    have hnone : escapeLength ([c] ++ y) = 0 := by
      have hone := escapeLength_ne_one ([c] ++ y)
      rw [List.length_singleton] at h
      omega
    rw [hnone]
    exact escapeLength_cons_of_harmless hb c
  | cons d x =>
    simp only [List.cons_append, List.length_cons] at h ⊢
    by_cases hc : isEscape c = true
    · cases hd : commandBell? d with
      | some bell =>
        rw [escapeLength_command hc hd] at h
        rw [escapeLength_command hc hd, escapeLength_command hc hd]
        have hstring : stringLength bell false (x ++ y) ≤ x.length := by omega
        rw [stringLength_append hy hstring]
      | none =>
        rw [escapeLength_numbers hc hd] at h
        rw [escapeLength_numbers hc hd, escapeLength_numbers hc hd]
        have hcharset : IsCharset d (x ++ b).head? ↔ IsCharset d (x ++ y).head? := by
          cases x with
          | nil =>
            refine iff_of_false (hb.not_isCharset d) fun hchoice => ?_
            rw [if_pos hchoice] at h
            exact absurd h (by decide)
          | cons e x => rfl
        by_cases hchoice : IsCharset d (x ++ y).head?
        · rw [if_pos hchoice, if_pos (hcharset.2 hchoice)]
        · rw [if_neg hchoice] at h
          have hopening := openingLength_append (x := d :: x) hb (le_of_andThen_le h)
          rw [if_neg hchoice, if_neg (mt hcharset.1 hchoice)]
          exact congrArg andThen hopening
    · have hplain : isEscape c = false := by simpa using hc
      rw [escapeLength_of_not_isEscape hplain, escapeLength_of_not_isEscape hplain]

/-- A sequence that does not end before something harmless is a command string without its mark. -/
theorem escapeLength_of_lt_append (hx : x ≠ []) (hb : Harmless b)
    (h : x.length < escapeLength (x ++ b)) :
    escapeLength x = x.length ∧ escapeLength (x ++ b) ≤ (x ++ b).length := by
  obtain ⟨c, x, rfl⟩ := List.exists_cons_of_ne_nil hx
  have hc : isEscape c = true := by
    cases hplain : isEscape c with
    | true => rfl
    | false =>
      rw [List.cons_append, escapeLength_of_not_isEscape hplain] at h
      omega
  cases x with
  | nil =>
    rw [List.cons_append, List.nil_append, escapeLength_cons_of_harmless hb] at h
    omega
  | cons d x =>
    simp only [List.cons_append, List.length_cons] at h ⊢
    cases hd : commandBell? d with
    | some bell =>
      rw [escapeLength_command hc hd] at h
      rw [escapeLength_command hc hd, escapeLength_command hc hd]
      have hwhole : stringLength bell false x = x.length :=
        stringLength_of_lt_append (y := b) (by omega)
      have hle := stringLength_le bell false (x ++ b)
      omega
    | none =>
      rw [escapeLength_numbers hc hd] at h
      split at h
      · next hchoice =>
        cases x with
        | nil => exact absurd hchoice (hb.not_isCharset d)
        | cons e x =>
          simp only [List.length_cons] at h
          omega
      · have hle := andThen_le (openingLength_le (d :: x))
        rw [← List.cons_append, openingLength_append_harmless hb] at h
        rw [List.length_cons] at hle
        omega

theorem runs_shown {c : Char} (h : escapeLength (c :: s) = 0) :
    runs (c :: s) = showFirst c (runs s) := by
  rw [runs, runsFrom, if_pos rfl, h]
  rfl

theorem runsFrom_length (x s : List Char) :
    runsFrom x.length (x ++ s) = x.foldr escapeFirst (runs s) := by
  induction x with
  | nil => rfl
  | cons c x ih =>
    rw [List.cons_append, List.length_cons, runsFrom, if_neg (Nat.succ_ne_zero _), List.foldr_cons,
      ← ih]

theorem runs_escape (hx : x ≠ []) (h : escapeLength (x ++ s) = x.length) :
    runs (x ++ s) = x.foldr escapeFirst (runs s) := by
  rw [← runsFrom_length]
  obtain ⟨c, x, rfl⟩ := List.exists_cons_of_ne_nil hx
  rw [List.cons_append] at h ⊢
  rw [runs, runsFrom, if_pos rfl, h, List.length_cons, runsFrom, if_neg (Nat.succ_ne_zero _)]

def widthOf (rs : List Run) : Nat :=
  rs.foldr (fun run n => run.width + n) 0

/-- The measurement of a whole text: what is ahead of a shown run, and the columns of all runs. -/
def total : List Run → Nat × Ahead
  | .shown s :: rs => shift (widthOf rs) (measure s)
  | rs => (widthOf rs, Ahead.free)

def scan (s : List Char) : Nat × Ahead :=
  total (runs s)

theorem total_fst (rs : List Run) : (total rs).1 = widthOf rs := by
  unfold total
  split <;> rfl

theorem columns_eq_scan (s : List Char) : columns s = (scan s).1 :=
  (total_fst (runs s)).symm

theorem covered_total (rs : List Run) : Covered (total rs) := by
  unfold total
  split
  · next s rs => exact Nat.le_trans (covered_measure s) (Nat.le_add_right _ _)
  · exact Nat.zero_le _

theorem covered_scan (s : List Char) : Covered (scan s) :=
  covered_total (runs s)

theorem total_showFirst (c : Char) (rs : List Run) :
    total (showFirst c rs) = measureStep c (total rs) := by
  unfold showFirst
  split
  · next s rs =>
    change shift (widthOf rs) (measure (c :: s)) = measureStep c (shift (widthOf rs) (measure s))
    rw [measure_cons, (measureStep_shift c _ (covered_measure s)).1]
  · next hrs =>
    have htotal : total rs = shift (widthOf rs) (0, Ahead.free) := by
      unfold total
      split
      · next s rs => exact (hrs s rs rfl).elim
      · rw [shift, Nat.zero_add]
    rw [htotal, (measureStep_shift c _ covered_free).1]
    rfl

theorem total_escapeFirst (c : Char) (rs : List Run) :
    total (escapeFirst c rs) = ((total rs).1, Ahead.free) := by
  rw [total_fst]
  unfold escapeFirst
  split
  · rfl
  · simp only [total, widthOf, List.foldr_cons, Run.width, Nat.zero_add]

@[simp] theorem scan_nil : scan [] = (0, Ahead.free) := rfl

theorem scan_shown {c : Char} (h : escapeLength (c :: s) = 0) :
    scan (c :: s) = measureStep c (scan s) := by
  rw [scan, runs_shown h, total_showFirst, scan]

theorem scan_escape (hx : x ≠ []) (h : escapeLength (x ++ s) = x.length) :
    scan (x ++ s) = ((scan s).1, Ahead.free) := by
  rw [scan, runs_escape hx h]
  clear h
  induction x with
  | nil => exact absurd rfl hx
  | cons c x ih =>
    rw [List.foldr_cons, total_escapeFirst]
    cases x with
    | nil => rfl
    | cons d x => rw [ih (List.cons_ne_nil d x)]

theorem scan_of_not_isEscape {c : Char} (h : isEscape c = false) (s : List Char) :
    scan (c :: s) = measureStep c (scan s) :=
  scan_shown (escapeLength_of_not_isEscape h s)

theorem scan_of_rigid (h : ∀ c ∈ s, Rigid c ∧ isEscape c = false) (k : Nat)
    (hfree : scan b = (k, Ahead.free)) : scan (s ++ b) = (k + s.length, Ahead.free) := by
  induction s with
  | nil => exact hfree
  | cons c s ih =>
    rw [List.forall_mem_cons] at h
    rw [List.cons_append, scan_of_not_isEscape h.1.2, ih h.2, h.1.1.measureStep, List.length_cons,
      Nat.add_assoc]

/-- In front of `rest`, the sequences of a text end in the text. -/
inductive Closed (rest : List Char) : List Char → Prop where
  | nil : Closed rest []
  | shown {c : Char} {s : List Char} (h : escapeLength (c :: (s ++ rest)) = 0)
      (hs : Closed rest s) : Closed rest (c :: s)
  | escape {x s : List Char} (hx : x ≠ []) (h : escapeLength (x ++ (s ++ rest)) = x.length)
      (hs : Closed rest s) : Closed rest (x ++ s)

theorem escapeLength_shown {c : Char} (h : escapeLength (c :: (s ++ y)) = 0) (hy : y ≠ [])
    (hb : Harmless b) : escapeLength (c :: (s ++ b)) = 0 := by
  rw [← List.cons_append] at h ⊢
  rw [escapeLength_append (List.cons_ne_nil c s) hy hb (by omega), h]

theorem escapeLength_whole (hx : x ≠ []) (h : escapeLength (x ++ (s ++ y)) = x.length)
    (hy : y ≠ []) (hb : Harmless b) : escapeLength (x ++ (s ++ b)) = x.length := by
  rw [← List.append_assoc] at h ⊢
  have hle : escapeLength (x ++ s ++ y) ≤ (x ++ s).length := by
    rw [h, List.length_append]
    exact Nat.le_add_right _ _
  rw [escapeLength_append (by simp [hx]) hy hb hle, h]

theorem escapeLength_shown_alone {c : Char} (h : escapeLength (c :: (s ++ y)) = 0) (hy : y ≠ []) :
    escapeLength (c :: s) = 0 := by
  have halone := escapeLength_shown h hy harmless_nil
  rwa [List.append_nil] at halone

theorem escapeLength_whole_alone (hx : x ≠ []) (h : escapeLength (x ++ (s ++ y)) = x.length)
    (hy : y ≠ []) : escapeLength (x ++ s) = x.length := by
  have halone := escapeLength_whole hx h hy harmless_nil
  rwa [List.append_nil] at halone

namespace Closed

/-- Whatever a text is closed in front of, it is closed in front of anything harmless. -/
theorem congr (h : Closed y s) (hy : y ≠ []) (hb : Harmless b) : Closed b s := by
  induction h with
  | nil => exact .nil
  | shown h _ ih => exact .shown (escapeLength_shown h hy hb) ih
  | escape hx h _ ih => exact .escape hx (escapeLength_whole hx h hy hb) ih

theorem append (hx : Closed (s ++ y) x) (hs : Closed y s) : Closed y (x ++ s) := by
  induction hx with
  | nil => exact hs
  | @shown c x h _ ih =>
    rw [List.cons_append]
    exact .shown (by rwa [List.append_assoc]) ih
  | escape hx h _ ih =>
    rw [List.append_assoc]
    exact .escape hx (by rwa [List.append_assoc]) ih

theorem scan_append (h : Closed y s) (hy : y ≠ []) (hb : Harmless b) {k : Nat}
    (hfree : scan b = (k, Ahead.free)) : scan (s ++ b) = shift k (scan s) := by
  induction h with
  | nil => rw [List.nil_append, hfree, scan_nil, shift, Nat.zero_add]
  | @shown c s h _ ih =>
    have halone := escapeLength_shown_alone h hy
    rw [List.cons_append, scan_shown (escapeLength_shown h hy hb), ih,
      (measureStep_shift c k (covered_scan s)).1, scan_shown halone]
  | @escape x s hx h _ ih =>
    have halone := escapeLength_whole_alone hx h hy
    rw [List.append_assoc, scan_escape hx (escapeLength_whole hx h hy hb), ih, scan_escape hx halone]
    rfl

end Closed

/-- A text is closed in front of a space, or it ends in a command string that hides the space. -/
theorem closed_or_scan_eq (s : List Char) :
    Closed [' '] s ∨ scan (s ++ [' ']) = scan s := by
  have hspace : Harmless [' '] := harmless_cons.2 rfl
  have hne : [' '] ≠ [] := List.cons_ne_nil _ _
  generalize hn : s.length = n
  induction n using Nat.strongRecOn generalizing s with
  | ind n ih =>
    subst hn
    cases s with
    | nil => exact .inl .nil
    | cons c t =>
      by_cases hle : escapeLength (c :: t ++ [' ']) ≤ (c :: t).length
      · rcases Nat.eq_zero_or_pos (escapeLength (c :: t ++ [' '])) with hzero | hpos
        · rw [List.cons_append] at hzero ⊢
          refine (ih t.length (Nat.lt_succ_self _) t rfl).imp (.shown hzero) fun ht => ?_
          have halone := escapeLength_shown_alone hzero hne
          rw [scan_shown hzero, ht, scan_shown halone]
        · -- The sequence and the text behind it.
          obtain ⟨x, r, hs, hx⟩ : ∃ x r, c :: t = x ++ r ∧
              x.length = escapeLength (c :: t ++ [' ']) :=
            ⟨_, _, (List.take_append_drop _ _).symm, List.length_take_of_le hle⟩
          have hxpos : 0 < x.length := by omega
          have hxne : x ≠ [] := List.ne_nil_of_length_pos hxpos
          rw [hs, List.append_assoc] at hx
          have hless : r.length < (c :: t).length := by
            rw [hs, List.length_append]
            omega
          rw [hs, List.append_assoc]
          refine (ih r.length hless r rfl).imp (.escape hxne hx.symm) fun hr => ?_
          have halone := escapeLength_whole_alone hxne hx.symm hne
          rw [scan_escape hxne hx.symm, hr, scan_escape hxne halone]
      · obtain ⟨halone, hwith⟩ :=
          escapeLength_of_lt_append (List.cons_ne_nil c t) hspace (Nat.lt_of_not_le hle)
        have hhidden : ∀ x : List Char, x ≠ [] → escapeLength x = x.length →
            scan x = (0, Ahead.free) := by
          intro x hx hlength
          have hscan := scan_escape (s := []) hx (by rwa [List.append_nil])
          rwa [List.append_nil] at hscan
        refine .inr ?_
        rw [hhidden _ (List.cons_ne_nil c t) halone, hhidden _ (by simp) ?_]
        rw [List.length_append, List.length_singleton] at hwith ⊢
        omega

theorem closed_of_columns (h : columns (s ++ [' ']) = columns s + 1) : Closed [' '] s := by
  rcases closed_or_scan_eq s with hs | hs
  · exact hs
  · rw [columns_eq_scan, columns_eq_scan, hs] at h
    omega

end CompileFlags.Text
