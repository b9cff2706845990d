import CompileFlags.Proofs.Shell.Written

set_option autoImplicit false

/-!
# The fields of a shell

A POSIX shell takes the line continuations out of a command line, parts what is left into tokens at
the spaces and tabs that no quote protects, and removes the quotes from the tokens. Splitting does
the same but for two things: it knows no line continuation, and it parts words at every white space.
-/

namespace CompileFlags.Shell.Fields

open Written

def joined : Standing → List Char → List Char
  | .outside, '\\' :: '\n' :: r => joined .outside r
  | .double, '\\' :: '\n' :: r => joined .double r
  | _, [] => []
  | standing, c :: r => c :: joined (standing.after c) r

/-- A character, and where it stands. -/
abbrev Mark := Standing × Char

def marks : Standing → List Char → List Mark
  | _, [] => []
  | standing, c :: r => (standing, c) :: marks (standing.after c) r

/-- What a character leaves when quotes are removed. In double quotes a backslash in front of what
needs none is left with it. -/
def kept : Mark → List Char
  | (.outside, c) => if c = '\\' ∨ c = '\x27' ∨ c = '"' then [] else [c]
  | (.escaping, c) => [c]
  | (.single, c) => if c = '\x27' then [] else [c]
  | (.double, c) => if c = '"' ∨ c = '\\' then [] else [c]
  | (.doubleEscaping, c) => if c ∈ escapable then [c] else ['\\', c]

def wordOf : List Mark → Option (List Char)
  | [] => none
  | token => some (token.flatMap kept)

def isGap (parts : Char → Bool) (m : Mark) : Bool :=
  m.1 == .outside && parts m.2

def tokens (parts : Char → Bool) (ms : List Mark) : List (List Mark) :=
  ms.splitOnP (isGap parts)

def wordsOf (parts : Char → Bool) (ms : List Mark) : List (List Char) :=
  (tokens parts ms).filterMap wordOf

def isParting (c : Char) : Bool :=
  c == ' ' || c == '\t'

def fields (command : String) : List String :=
  (wordsOf isParting (marks .outside (joined .outside command.toList))).map String.ofList

def operatorChars : List Char :=
  ['|', '&', ';', '<', '>', '(', ')']

/-- A text that a shell reads as one command of nothing but words. -/
structure IsWordsOnly (s : List Char) : Prop where
  closed : Written.IsClosed s
  operators : ∀ m ∈ marks .outside s, m.1 = .outside → m.2 ∉ operatorChars
  newlines : (.outside, '\n') ∉ marks .outside s
  comments : ∀ token ∈ tokens isParting (marks .outside (joined .outside s)),
    token.head? ≠ some (.outside, '#')

def IsContinued (ms : List Mark) : Prop :=
  (.escaping, '\n') ∈ ms ∨ (.doubleEscaping, '\n') ∈ ms

instance (ms : List Mark) : Decidable (IsContinued ms) :=
  inferInstanceAs (Decidable (_ ∨ _))

/-- Outside quotes is white space that parts no tokens in a shell. -/
def HasOtherBlank (ms : List Mark) : Prop :=
  ∃ m ∈ ms, isGap Text.isBlank m = true ∧ isGap isParting m = false

instance (ms : List Mark) : Decidable (HasOtherBlank ms) :=
  inferInstanceAs (Decidable (∃ _ ∈ _, _))

theorem wordOf_append {token more : List Mark} (h : more ≠ []) :
    wordOf (token ++ more) = glue (wordOf token) (more.flatMap kept) := by
  cases token with
  | nil =>
    cases more with
    | nil => exact absurd rfl h
    | cons m more => simp [wordOf, glue]
  | cons m token => simp [wordOf, glue]

variable {parts : Char → Bool} {token ms : List Mark}

theorem wordsOf_token (h : ∀ m ∈ token, isGap parts m = false) :
    wordsOf parts token = (wordOf token).toList := by
  rw [wordsOf, tokens, List.splitOnP_eq_singleton h]
  cases hword : wordOf token <;> simp [hword]

theorem wordsOf_gap {m : Mark} (h : ∀ m ∈ token, isGap parts m = false)
    (hgap : isGap parts m = true) :
    wordsOf parts (token ++ m :: ms) = (wordOf token).toList ++ wordsOf parts ms := by
  rw [← wordsOf_token h, wordsOf, wordsOf, wordsOf, tokens, tokens, tokens,
    List.splitOnP_append_cons _ _ hgap, List.filterMap_append]

theorem marks_append (standing : Standing) (s r : List Char) :
    marks standing (s ++ r) = marks standing s ++ marks (s.foldl Standing.after standing) r := by
  induction s generalizing standing with
  | nil => rfl
  | cons c s ih => rw [List.cons_append, marks, marks, ih, List.foldl_cons, List.cons_append]

theorem isGap_of_ne_outside {m : Mark} (h : m.1 ≠ .outside) : isGap parts m = false := by
  simp [isGap, h]

theorem marks_single {text : List Char} (h : '\x27' ∉ text) :
    marks .single text = text.map fun c => (.single, c) := by
  induction text with
  | nil => rfl
  | cons c text ih =>
    have hc : c ≠ '\x27' := fun heq => h (by simp [heq])
    rw [marks, Standing.after, if_neg hc, ih fun hmem => h (List.mem_cons_of_mem c hmem),
      List.map_cons]

theorem kept_single {text : List Char} (h : '\x27' ∉ text) :
    (marks .single text).flatMap kept = text := by
  rw [marks_single h]
  induction text with
  | nil => rfl
  | cons c text ih =>
    have hc : c ≠ '\x27' := fun heq => h (by simp [heq])
    rw [List.map_cons, List.flatMap_cons, ih fun hmem => h (List.mem_cons_of_mem c hmem), kept,
      if_neg hc]
    rfl

theorem kept_inner (inner : Inner) :
    (marks .double inner.written).flatMap kept = inner.denoted := by
  cases inner with
  | plain c h => simp [Inner.written, Inner.denoted, marks, kept, h.1, h.2]
  | escape c h => simp [Inner.written, Inner.denoted, marks, Standing.after, kept, h]
  | backslash c h => simp [Inner.written, Inner.denoted, marks, Standing.after, kept, h]

theorem kept_double (inners : List Inner) :
    (marks .double (inners.flatMap Inner.written)).flatMap kept =
      inners.flatMap Inner.denoted := by
  induction inners with
  | nil => rfl
  | cons inner inners ih =>
    rw [List.flatMap_cons, List.flatMap_cons, marks_append, after_inner, List.flatMap_append,
      kept_inner, ih]

theorem ne_outside_inner (inner : Inner) : ∀ m ∈ marks .double inner.written, m.1 ≠ .outside := by
  cases inner <;> simp [Inner.written, marks, Standing.after]

theorem ne_outside_double (inners : List Inner) :
    ∀ m ∈ marks .double (inners.flatMap Inner.written), m.1 ≠ .outside := by
  induction inners with
  | nil => simp [marks]
  | cons inner inners ih =>
    rw [List.flatMap_cons, marks_append, after_inner]
    intro m hm
    rcases List.mem_append.1 hm with hm | hm
    · exact ne_outside_inner inner m hm
    · exact ih m hm

theorem marks_part_single {text : List Char} (h : '\x27' ∉ text) :
    marks .outside (Part.single text h).written =
      (.outside, '\x27') :: (marks .single text ++ [(.single, '\x27')]) := by
  simp [Part.written, marks, Standing.after, marks_append, after_single h]

theorem marks_part_double (inners : List Inner) :
    marks .outside (Part.double inners).written =
      (.outside, '"') :: (marks .double (inners.flatMap Inner.written) ++ [(.double, '"')]) := by
  simp [Part.written, marks, Standing.after, marks_append, after_double]

theorem kept_part (part : Part) : (marks .outside part.written).flatMap kept = part.denoted := by
  cases part with
  | single text h => simp [marks_part_single, Part.denoted, kept_single h, kept]
  | double inners => simp [marks_part_double, Part.denoted, kept_double, kept]
  | escape c => simp [Part.written, Part.denoted, marks, Standing.after, kept]
  | plain c h => simp [Part.written, Part.denoted, marks, kept, h.2.1, h.2.2.1, h.2.2.2]

theorem isGap_part (part : Part) :
    ∀ m ∈ marks .outside part.written, isGap Text.isBlank m = false := by
  intro m hm
  cases part with
  | single text h =>
    rw [marks_part_single, marks_single h] at hm
    simp only [List.mem_cons, List.mem_append, List.mem_map, List.not_mem_nil, or_false] at hm
    rcases hm with rfl | ⟨c, -, rfl⟩ | rfl
    · rfl
    · exact isGap_of_ne_outside (by simp)
    · exact isGap_of_ne_outside (by simp)
  | double inners =>
    rw [marks_part_double] at hm
    simp only [List.mem_cons, List.mem_append, List.not_mem_nil, or_false] at hm
    rcases hm with rfl | hm | rfl
    · rfl
    · exact isGap_of_ne_outside (ne_outside_double inners m hm)
    · exact isGap_of_ne_outside (by simp)
  | escape c =>
    simp only [Part.written, marks, List.mem_cons, List.not_mem_nil, or_false] at hm
    rcases hm with rfl | rfl
    · rfl
    · exact isGap_of_ne_outside (by simp [Standing.after])
  | plain c h =>
    obtain rfl := List.mem_singleton.1 hm
    exact h.1

theorem wordsFrom_eq_wordsOf {s : List Char} (h : Written.IsClosed s) :
    ∀ token : List Mark, (∀ m ∈ token, isGap Text.isBlank m = false) →
      wordsFrom .none (wordOf token) s = wordsOf Text.isBlank (token ++ marks .outside s) := by
  refine Written.IsClosed.induction ?nil ?blank ?part h
  case nil =>
    intro token htoken
    rw [wordsFrom, marks, List.append_nil, wordsOf_token htoken]
  case blank =>
    intro c s hblank ih token htoken
    have hrest := ih [] (by simp)
    rw [wordsFrom_blank hblank, marks, after_blank hblank,
      wordsOf_gap htoken (by simp [isGap, hblank])]
    exact congrArg _ hrest
  case part =>
    intro part r ih token htoken
    have hclosed : part.written.foldl Standing.after .outside = .outside := isClosed_part part
    have hmarks : marks .outside part.written ≠ [] := by
      cases hwritten : part.written with
      | nil => exact absurd hwritten (part_written_ne_nil part)
      | cons c rest => simp [marks]
    have hlonger : ∀ m ∈ token ++ marks .outside part.written, isGap Text.isBlank m = false := by
      intro m hm
      rcases List.mem_append.1 hm with hm | hm
      · exact htoken m hm
      · exact isGap_part part m hm
    rw [wordsFrom_part, marks_append, hclosed, ← List.append_assoc, ← ih _ hlonger,
      wordOf_append hmarks, kept_part]

theorem words_eq_wordsOf {s : List Char} (h : Written.IsClosed s) :
    words s = wordsOf Text.isBlank (marks .outside s) :=
  wordsFrom_eq_wordsOf h [] (by simp)

theorem after_eq_escaping {standing : Standing} {c : Char} (h : standing.after c = .escaping) :
    standing = .outside ∧ c = '\\' := by
  cases standing <;> grind [Standing.after]

theorem after_eq_doubleEscaping {standing : Standing} {c : Char}
    (h : standing.after c = .doubleEscaping) : standing = .double ∧ c = '\\' := by
  cases standing <;> grind [Standing.after]

theorem joined_sublist (standing : Standing) (s : List Char) : (joined standing s).Sublist s := by
  induction standing, s using joined.induct with
  | case1 r ih => exact (ih.cons _).cons _
  | case2 r ih => exact (ih.cons _).cons _
  | case3 standing => simp [joined]
  | case4 standing c r houtside hdouble ih =>
    rw [joined]
    · exact ih.cons_cons c
    · exact houtside
    · exact hdouble

theorem joined_of_not_isContinued {standing : Standing} {s : List Char}
    (h : ¬ IsContinued (marks standing s)) : joined standing s = s := by
  induction standing, s using joined.induct with
  | case1 r ih => exact absurd (by simp [IsContinued, marks, Standing.after]) h
  | case2 r ih => exact absurd (by simp [IsContinued, marks, Standing.after]) h
  | case3 standing => rw [joined]
  | case4 standing c r houtside hdouble ih =>
    have hrest : ¬ IsContinued (marks (standing.after c) r) := by
      intro hrest
      apply h
      rw [marks]
      exact hrest.imp (List.mem_cons_of_mem _) (List.mem_cons_of_mem _)
    rw [joined, ih hrest]
    · exact houtside
    · exact hdouble

/-- Every continued line takes a newline out of a text that does not start behind a backslash. -/
theorem count_joined_lt {standing : Standing} {s : List Char}
    (hstart : standing = .escaping ∨ standing = .doubleEscaping → s.head? ≠ some '\n')
    (h : IsContinued (marks standing s)) : (joined standing s).count '\n' < s.count '\n' := by
  induction standing, s using joined.induct with
  | case1 r ih =>
    have hle := (joined_sublist .outside r).count_le '\n'
    simp [joined]
    omega
  | case2 r ih =>
    have hle := (joined_sublist .double r).count_le '\n'
    simp [joined]
    omega
  | case3 standing => simp [IsContinued, marks] at h
  | case4 standing c r houtside hdouble ih =>
    have hrest : IsContinued (marks (standing.after c) r) := by
      rw [marks, IsContinued, List.mem_cons, List.mem_cons] at h
      rcases h with (hhere | h) | (hhere | h)
      · cases hhere
        exact absurd rfl (hstart (.inl rfl))
      · exact .inl h
      · cases hhere
        exact absurd rfl (hstart (.inr rfl))
      · exact .inr h
    have hnext : standing.after c = .escaping ∨ standing.after c = .doubleEscaping →
        r.head? ≠ some '\n' := by
      rintro hescaping hhead
      obtain ⟨r, rfl⟩ := List.head?_eq_some_iff.1 hhead
      rcases hescaping with hescaping | hescaping
      · obtain ⟨hat, hc⟩ := after_eq_escaping hescaping
        exact houtside r hat hc rfl
      · obtain ⟨hat, hc⟩ := after_eq_doubleEscaping hescaping
        exact hdouble r hat hc rfl
    have hlt := ih hnext hrest
    rw [joined, List.count_cons, List.count_cons]
    · omega
    · exact houtside
    · exact hdouble

variable {α : Type} {p q : α → Bool}

theorem flatten_splitOnP (items : List α) :
    (items.splitOnP p).flatten = items.filter fun a => !p a := by
  induction items with
  | nil => rfl
  | cons a items ih =>
    rw [List.splitOnP_cons_eq_if_modifyHead, List.filter_cons]
    cases hp : p a with
    | true => simpa using ih
    | false =>
      obtain ⟨first, rest, hsplit⟩ := List.exists_cons_of_ne_nil (List.splitOnP_ne_nil p items)
      rw [hsplit] at ih
      simpa [hsplit] using ih

theorem splitOnP_congr {items : List α} (h : ∀ a ∈ items, p a = q a) :
    items.splitOnP p = items.splitOnP q := by
  induction items with
  | nil => rfl
  | cons a items ih =>
    rw [List.splitOnP_cons_eq_if_modifyHead, List.splitOnP_cons_eq_if_modifyHead, h a (by simp),
      ih fun b hb => h b (List.mem_cons_of_mem a hb)]

theorem flatten_filterMap_wordOf (tokens : List (List Mark)) :
    (tokens.filterMap wordOf).flatten = tokens.flatten.flatMap kept := by
  induction tokens with
  | nil => rfl
  | cons token tokens ih =>
    cases token with
    | nil => exact ih
    | cons m token => simp [wordOf, ih]

theorem flatten_wordsOf (ms : List Mark) :
    (wordsOf parts ms).flatten = (ms.filter fun m => !isGap parts m).flatMap kept := by
  rw [wordsOf, flatten_filterMap_wordOf, tokens, flatten_splitOnP]

/-- Newlines stay, where they part nothing. -/
theorem count_kept (m : Mark) : (kept m).count '\n' = if m.2 = '\n' then 1 else 0 := by
  obtain ⟨standing, c⟩ := m
  cases standing <;> grind [kept]

theorem count_wordsOf (h : ∀ m ∈ ms, m.2 = '\n' → isGap parts m = false) :
    (wordsOf parts ms).flatten.count '\n' = (ms.map Prod.snd).count '\n' := by
  rw [flatten_wordsOf]
  induction ms with
  | nil => rfl
  | cons m ms ih =>
    have hrest := ih fun m hm => h m (List.mem_cons_of_mem _ hm)
    have hhere := h m List.mem_cons_self
    rw [List.filter_cons, List.map_cons, List.count_cons]
    by_cases hm : m.2 = '\n'
    · simp [hhere hm, count_kept, hm, hrest, Nat.add_comm]
    · cases isGap parts m <;> simp [count_kept, hm, hrest]

theorem isBlank_of_isParting {c : Char} (h : isParting c = true) : Text.isBlank c = true := by
  simp only [isParting, Bool.or_eq_true, beq_iff_eq] at h
  rcases h with rfl | rfl <;> rfl

theorem isGap_isBlank {m : Mark} (h : isGap isParting m = true) : isGap Text.isBlank m = true := by
  simp only [isGap, Bool.and_eq_true] at h ⊢
  exact ⟨h.1, isBlank_of_isParting h.2⟩

theorem length_kept_of_isGap {m : Mark} (h : isGap Text.isBlank m = true) :
    (kept m).length = 1 := by
  obtain ⟨standing, c⟩ := m
  simp only [isGap, Bool.and_eq_true, beq_iff_eq] at h
  obtain ⟨rfl, hblank⟩ := h
  have hquote : ¬ (c = '\\' ∨ c = '\x27' ∨ c = '"') := by
    rintro (rfl | rfl | rfl) <;> cases hblank
  rw [kept, if_neg hquote]
  rfl

/-- Every other white space outside quotes is one character more for a shell. -/
theorem length_wordsOf (ms : List Mark) :
    (wordsOf isParting ms).flatten.length = (wordsOf Text.isBlank ms).flatten.length +
      ms.countP fun m => isGap Text.isBlank m && !isGap isParting m := by
  rw [flatten_wordsOf, flatten_wordsOf]
  induction ms with
  | nil => rfl
  | cons m ms ih =>
    rw [List.filter_cons, List.filter_cons, List.countP_cons]
    cases hparting : isGap isParting m with
    | true =>
      have hblank := isGap_isBlank hparting
      simpa [hblank] using ih
    | false =>
      cases hblank : isGap Text.isBlank m with
      | true =>
        simp [length_kept_of_isGap hblank, ih]
        omega
      | false => 
        simp [ih]
        omega

theorem marks_map_snd (standing : Standing) (s : List Char) :
    (marks standing s).map Prod.snd = s := by
  induction s generalizing standing with
  | nil => rfl
  | cons c s ih => rw [marks, List.map_cons, ih]

theorem count_words {s : List Char} (h : IsWordsOnly s) :
    (words s).flatten.count '\n' = s.count '\n' := by
  rw [words_eq_wordsOf h.closed, count_wordsOf, marks_map_snd]
  rintro ⟨standing, c⟩ hm rfl
  refine isGap_of_ne_outside ?_
  rintro rfl
  exact h.newlines hm

theorem count_wordsOf_isParting (standing : Standing) (s : List Char) :
    (wordsOf isParting (marks standing s)).flatten.count '\n' = s.count '\n' := by
  rw [count_wordsOf, marks_map_snd]
  rintro ⟨standing, c⟩ hm rfl
  exact Bool.and_false _

theorem wordsOf_congr (h : ¬ HasOtherBlank ms) :
    wordsOf Text.isBlank ms = wordsOf isParting ms := by
  rw [wordsOf, wordsOf, tokens, tokens, splitOnP_congr]
  intro m hm
  cases hparting : isGap isParting m with
  | true => exact isGap_isBlank hparting
  | false => exact Bool.eq_false_iff.2 fun hblank => h ⟨m, hm, hblank, hparting⟩

theorem wordsOf_ne (h : HasOtherBlank ms) : wordsOf Text.isBlank ms ≠ wordsOf isParting ms := by
  intro heq
  obtain ⟨m, hm, hblank, hparting⟩ := h
  have hlength := length_wordsOf ms
  have hpos : 0 < ms.countP fun m => isGap Text.isBlank m && !isGap isParting m :=
    List.countP_pos_iff.2 ⟨m, hm, by simp [hblank, hparting]⟩
  rw [heq] at hlength
  omega

/-- Of a command line that is nothing but words, splitting gives the fields of a shell if no line of
it is continued and no white space but spaces and tabs is outside quotes, and only then. -/
theorem splitCommand_eq_fields_iff {command : String} (h : IsWordsOnly command.toList) :
    splitCommand command = fields command ↔
      ¬ IsContinued (marks .outside command.toList) ∧
        ¬ HasOtherBlank (marks .outside command.toList) := by
  rw [splitCommand, fields, List.map_inj_right fun _ _ => String.ofList_injective]
  constructor
  · intro heq
    have hcontinued : ¬ IsContinued (marks .outside command.toList) := by
      intro hcontinued
      have hlt := count_joined_lt (by simp) hcontinued
      have hcount := count_words h
      rw [heq, count_wordsOf_isParting] at hcount
      omega
    refine ⟨hcontinued, fun hother => wordsOf_ne hother ?_⟩
    rw [← words_eq_wordsOf h.closed, heq, joined_of_not_isContinued hcontinued]
  · rintro ⟨hcontinued, hother⟩
    rw [joined_of_not_isContinued hcontinued, words_eq_wordsOf h.closed, wordsOf_congr hother]

/-- Every kind of quote, a newline in one of them, and a number sign inside a word. -/
def quotedCommand : String :=
  "cc\t-D'a\nb'  \"x\\$\\n\"\\ y ''#"

theorem splitCommand_quotedCommand :
    IsWordsOnly quotedCommand.toList ∧ splitCommand quotedCommand = fields quotedCommand := by
  have hwords : IsWordsOnly quotedCommand.toList :=
    ⟨by decide, by decide, by decide, by decide⟩
  exact ⟨hwords, (splitCommand_eq_fields_iff hwords).2 ⟨by decide, by decide⟩⟩

theorem splitCommand_ne_fields :
    (IsWordsOnly "a\\\nb".toList ∧ splitCommand "a\\\nb" = ["a\nb"] ∧
      fields "a\\\nb" = ["ab"]) ∧
    (IsWordsOnly "a\u00a0b".toList ∧ splitCommand "a\u00a0b" = ["a", "b"] ∧
      fields "a\u00a0b" = ["a\u00a0b"]) := by
  refine ⟨⟨⟨?_, ?_, ?_, ?_⟩, ?_, ?_⟩, ⟨?_, ?_, ?_, ?_⟩, ?_, ?_⟩ <;> decide

end CompileFlags.Shell.Fields
