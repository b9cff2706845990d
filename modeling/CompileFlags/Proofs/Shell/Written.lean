import CompileFlags.Shell.Words

set_option autoImplicit false

namespace CompileFlags.Shell.Written

def escapable : List Char :=
  ['"', '\\', '$', '\x60']

/-- A piece of a text in double quotes. -/
inductive Inner where
  | plain (c : Char) (h : c ≠ '"' ∧ c ≠ '\\')
  | escape (c : Char) (h : c ∈ escapable)
  | backslash (c : Char) (h : c ∉ escapable)

def Inner.written : Inner → List Char
  | .plain c _ => [c]
  | .escape c _ => ['\\', c]
  | .backslash c _ => ['\\', c]

def Inner.denoted : Inner → List Char
  | .plain c _ => [c]
  | .escape c _ => [c]
  | .backslash c _ => ['\\', c]

/-- A character that starts no quote, escapes nothing and parts no words. -/
def IsPlain (c : Char) : Prop :=
  Text.isBlank c = false ∧ c ≠ '\x27' ∧ c ≠ '"' ∧ c ≠ '\\'

inductive Part where
  | single (text : List Char) (h : '\x27' ∉ text)
  | double (inners : List Inner)
  | escape (c : Char)
  | plain (c : Char) (h : IsPlain c)

def Part.written : Part → List Char
  | .single text _ => '\x27' :: text ++ ['\x27']
  | .double inners => '"' :: inners.flatMap Inner.written ++ ['"']
  | .escape c => ['\\', c]
  | .plain c _ => [c]

def Part.denoted : Part → List Char
  | .single text _ => text
  | .double inners => inners.flatMap Inner.denoted
  | .escape c => [c]
  | .plain c _ => [c]

structure Word where
  parts : List Part
  nonempty : parts ≠ []

def Word.written (w : Word) : List Char :=
  w.parts.flatMap Part.written

def Word.denoted (w : Word) : List Char :=
  w.parts.flatMap Part.denoted

/-- A run of white space, possibly none. -/
structure Gap where
  chars : List Char
  blank : ∀ c ∈ chars, Text.isBlank c = true

def Gap.empty : Gap := ⟨[], by simp⟩

/-- Words, each with the white space in front of it, and the white space at the end. Only the first
word may stand without any in front. -/
structure Command where
  words : List (Gap × Word)
  trail : Gap
  parted : ∀ item ∈ words.tail, item.1.chars ≠ []

def itemText (item : Gap × Word) : List Char :=
  item.1.chars ++ item.2.written

def Command.written (command : Command) : List Char :=
  command.words.flatMap itemText ++ command.trail.chars

def Command.denoted (command : Command) : List (List Char) :=
  command.words.map fun item => item.2.denoted

/-- Where a text stands after its first characters. -/
inductive Standing where
  | outside
  | escaping
  | single
  | double
  | doubleEscaping
deriving DecidableEq

def Standing.after : Standing → Char → Standing
  | .outside, c =>
    if c = '\\' then .escaping
    else if c = '\x27' then .single
    else if c = '"' then .double
    else .outside
  | .escaping, _ => .outside
  | .single, c => if c = '\x27' then .outside else .single
  | .double, c =>
    if c = '"' then .outside else if c = '\\' then .doubleEscaping else .double
  | .doubleEscaping, _ => .double

/-- All quotes are closed, and no backslash outside quotes ends the text. -/
def IsClosed (s : List Char) : Prop :=
  s.foldl Standing.after .outside = .outside

instance (s : List Char) : Decidable (IsClosed s) :=
  inferInstanceAs (Decidable (_ = _))

theorem isProtected_iff (c : Char) : isProtected c = true ↔ c ∈ escapable := by
  simp [isProtected, escapable, or_assoc]

theorem wordsFrom_single (w text r : List Char) (h : '\x27' ∉ text) :
    wordsFrom .single (some w) (text ++ '\x27' :: r) = wordsFrom .none (some (w ++ text)) r := by
  induction text generalizing w with
  | nil => simp [wordsFrom]
  | cons c text ih =>
    have hc : c ≠ '\x27' := fun heq => h (by simp [heq])
    rw [List.cons_append, wordsFrom, if_neg hc]
    change wordsFrom .single (some (w ++ [c])) (text ++ '\x27' :: r) = _
    rw [ih (w ++ [c]) fun hmem => h (List.mem_cons_of_mem c hmem)]
    simp

theorem wordsFrom_inner (word : Option (List Char)) (inner : Inner) (r : List Char) :
    wordsFrom .double word (inner.written ++ r) =
      wordsFrom .double (glue word inner.denoted) r := by
  cases inner with
  | plain c h =>
    change wordsFrom .double word (c :: r) = _
    rw [wordsFrom, if_neg h.1]
    · rfl
    · rintro d s rfl
      exact absurd rfl h.2
  | escape c h =>
    change wordsFrom .double word ('\\' :: c :: r) = _
    rw [wordsFrom, if_pos ((isProtected_iff c).2 h)]
    rfl
  | backslash c h =>
    change wordsFrom .double word ('\\' :: c :: r) = _
    rw [wordsFrom, if_neg fun hprotected => h ((isProtected_iff c).1 hprotected)]
    rfl

theorem wordsFrom_double (w : List Char) (inners : List Inner) (r : List Char) :
    wordsFrom .double (some w) (inners.flatMap Inner.written ++ '"' :: r) =
      wordsFrom .none (some (w ++ inners.flatMap Inner.denoted)) r := by
  induction inners generalizing w with
  | nil => simp [wordsFrom]
  | cons inner inners ih =>
    rw [List.flatMap_cons, List.append_assoc, wordsFrom_inner]
    change wordsFrom .double (some (w ++ inner.denoted)) _ = _
    rw [ih]
    simp

theorem wordsFrom_plain {c : Char} (h : IsPlain c) (word : Option (List Char)) (r : List Char) :
    wordsFrom .none word (c :: r) = wordsFrom .none (glue word [c]) r := by
  obtain ⟨hblank, hsingle, hdouble, hback⟩ := h
  rw [wordsFrom, if_neg hsingle, if_neg hdouble, if_neg (by simp [hblank])]
  · rintro d s rfl
    exact absurd rfl hback
  · rintro rfl
    exact absurd rfl hback

theorem wordsFrom_part (word : Option (List Char)) (part : Part) (r : List Char) :
    wordsFrom .none word (part.written ++ r) = wordsFrom .none (glue word part.denoted) r := by
  cases part with
  | single text h =>
    have hopen : wordsFrom .none word ((Part.single text h).written ++ r) =
        wordsFrom .single (glue word []) (text ++ '\x27' :: r) := by
      simp [Part.written, wordsFrom]
    rw [hopen, glue, List.append_nil, wordsFrom_single _ _ _ h]
    rfl
  | double inners =>
    have hopen : wordsFrom .none word ((Part.double inners).written ++ r) =
        wordsFrom .double (glue word []) (inners.flatMap Inner.written ++ '"' :: r) := by
      simp [Part.written, wordsFrom]
    rw [hopen, glue, List.append_nil, wordsFrom_double]
    rfl
  | escape c =>
    change wordsFrom .none word ('\\' :: c :: r) = _
    rw [wordsFrom]
    rfl
  | plain c h => exact wordsFrom_plain h word r

theorem wordsFrom_parts (w : List Char) (parts : List Part) (r : List Char) :
    wordsFrom .none (some w) (parts.flatMap Part.written ++ r) =
      wordsFrom .none (some (w ++ parts.flatMap Part.denoted)) r := by
  induction parts generalizing w with
  | nil => simp
  | cons part parts ih =>
    rw [List.flatMap_cons, List.append_assoc, wordsFrom_part]
    change wordsFrom .none (some (w ++ part.denoted)) _ = _
    rw [ih]
    simp

theorem wordsFrom_word (w : Word) (r : List Char) :
    wordsFrom .none none (w.written ++ r) = wordsFrom .none (some w.denoted) r := by
  obtain ⟨parts, hne⟩ := w
  cases parts with
  | nil => exact absurd rfl hne
  | cons part parts =>
    change wordsFrom .none none (List.flatMap Part.written (part :: parts) ++ r) = _
    rw [List.flatMap_cons, List.append_assoc, wordsFrom_part]
    change wordsFrom .none (some part.denoted) _ = _
    rw [wordsFrom_parts]
    rfl

theorem wordsFrom_gap (gap : Gap) (r : List Char) :
    wordsFrom .none none (gap.chars ++ r) = wordsFrom .none none r := by
  obtain ⟨chars, hblank⟩ := gap
  dsimp only
  induction chars with
  | nil => rfl
  | cons c chars ih =>
    rw [List.cons_append, wordsFrom_blank (hblank c (by simp)),
      ih fun d hd => hblank d (List.mem_cons_of_mem c hd)]
    rfl

theorem wordsFrom_some_gap {gap : Gap} (hne : gap.chars ≠ []) (w r : List Char) :
    wordsFrom .none (some w) (gap.chars ++ r) = w :: wordsFrom .none none r := by
  obtain ⟨chars, hblank⟩ := gap
  cases chars with
  | nil => exact absurd rfl hne
  | cons c chars =>
    have hrest := wordsFrom_gap ⟨chars, fun d hd => hblank d (List.mem_cons_of_mem c hd)⟩ r
    dsimp only at hrest ⊢
    rw [List.cons_append, wordsFrom_blank (hblank c (by simp)), hrest]
    rfl

theorem wordsFrom_trail (word : Option (List Char)) (gap : Gap) :
    wordsFrom .none word gap.chars = word.toList := by
  have hnil : wordsFrom .none none gap.chars = [] := by
    have hgap := wordsFrom_gap gap []
    rw [List.append_nil] at hgap
    rw [hgap]
    rfl
  cases word with
  | none => exact hnil
  | some w =>
    by_cases hne : gap.chars = []
    · rw [hne]
      rfl
    · have hgap := wordsFrom_some_gap hne w []
      rw [List.append_nil] at hgap
      rw [hgap]
      rfl

theorem wordsFrom_items (w : List Char) (items : List (Gap × Word)) (trail : Gap)
    (h : ∀ item ∈ items, item.1.chars ≠ []) :
    wordsFrom .none (some w) (items.flatMap itemText ++ trail.chars) =
      w :: items.map fun item => item.2.denoted := by
  induction items generalizing w with
  | nil => exact wordsFrom_trail (some w) trail
  | cons item items ih =>
    rw [List.flatMap_cons, itemText, List.append_assoc, List.append_assoc,
      wordsFrom_some_gap (h item (by simp)), wordsFrom_word,
      ih item.2.denoted fun other hother => h other (List.mem_cons_of_mem item hother)]
    rfl

theorem words_written (command : Command) : words command.written = command.denoted := by
  obtain ⟨items, trail, hparted⟩ := command
  cases items with
  | nil => exact wordsFrom_trail none trail
  | cons item items =>
    change wordsFrom .none none (List.flatMap itemText (item :: items) ++ trail.chars) = _
    rw [List.flatMap_cons, itemText, List.append_assoc, List.append_assoc, wordsFrom_gap,
      wordsFrom_word, wordsFrom_items item.2.denoted items trail hparted]
    rfl

theorem after_single {text : List Char} (h : '\x27' ∉ text) :
    text.foldl Standing.after .single = .single := by
  induction text with
  | nil => rfl
  | cons c text ih =>
    have hc : c ≠ '\x27' := fun heq => h (by simp [heq])
    rw [List.foldl_cons, Standing.after, if_neg hc]
    exact ih fun hmem => h (List.mem_cons_of_mem c hmem)

theorem after_inner (inner : Inner) : inner.written.foldl Standing.after .double = .double := by
  cases inner with
  | plain c h => simp [Inner.written, Standing.after, h.1, h.2]
  | escape c h => simp [Inner.written, Standing.after]
  | backslash c h => simp [Inner.written, Standing.after]

theorem after_double (inners : List Inner) :
    (inners.flatMap Inner.written).foldl Standing.after .double = .double := by
  induction inners with
  | nil => rfl
  | cons inner inners ih => rw [List.flatMap_cons, List.foldl_append, after_inner, ih]

theorem isClosed_append {s t : List Char} (hs : IsClosed s) (ht : IsClosed t) :
    IsClosed (s ++ t) := by
  rw [IsClosed, List.foldl_append, hs]
  exact ht

theorem isClosed_flatMap {α : Type} {text : α → List Char} {items : List α}
    (h : ∀ item ∈ items, IsClosed (text item)) : IsClosed (items.flatMap text) := by
  induction items with
  | nil => rfl
  | cons item items ih =>
    rw [List.flatMap_cons]
    exact isClosed_append (h item (by simp))
      (ih fun other hother => h other (List.mem_cons_of_mem item hother))

theorem after_plain {c : Char} (hsingle : c ≠ '\x27') (hdouble : c ≠ '"') (hback : c ≠ '\\') :
    Standing.after .outside c = .outside := by
  simp [Standing.after, hsingle, hdouble, hback]

theorem isClosed_part (part : Part) : IsClosed part.written := by
  cases part with
  | single text h =>
    simp [IsClosed, Part.written, List.foldl_append, Standing.after, after_single h]
  | double inners =>
    simp [IsClosed, Part.written, List.foldl_append, Standing.after, after_double]
  | escape c => simp [IsClosed, Part.written, Standing.after]
  | plain c h => exact after_plain h.2.1 h.2.2.1 h.2.2.2

theorem after_blank {c : Char} (h : Text.isBlank c = true) :
    Standing.after .outside c = .outside := by
  apply after_plain
  · rintro rfl
    revert h
    decide
  · rintro rfl
    revert h
    decide
  · rintro rfl
    revert h
    decide

theorem isClosed_gap (gap : Gap) : IsClosed gap.chars := by
  obtain ⟨chars, hblank⟩ := gap
  dsimp only
  induction chars with
  | nil => rfl
  | cons c chars ih =>
    rw [IsClosed, List.foldl_cons, after_blank (hblank c (by simp))]
    exact ih fun d hd => hblank d (List.mem_cons_of_mem c hd)

theorem isClosed_written (command : Command) : IsClosed command.written := by
  refine isClosed_append (isClosed_flatMap fun item _ => ?_) (isClosed_gap command.trail)
  exact isClosed_append (isClosed_gap item.1) (isClosed_flatMap fun part _ => isClosed_part part)

theorem exists_single {s : List Char} (h : s.foldl Standing.after .single = .outside) :
    ∃ text r, '\x27' ∉ text ∧ s = text ++ '\x27' :: r ∧ IsClosed r := by
  induction s with
  | nil => cases h
  | cons c s ih =>
    rw [List.foldl_cons, Standing.after] at h
    by_cases hc : c = '\x27'
    · rw [if_pos hc] at h
      exact ⟨[], s, by simp, by rw [hc]; rfl, h⟩
    · rw [if_neg hc] at h
      obtain ⟨text, r, htext, rfl, hr⟩ := ih h
      exact ⟨c :: text, r, by simp [Ne.symm hc, htext], rfl, hr⟩

/-- The character behind a backslash in double quotes makes one piece with it. -/
theorem exists_inner (c : Char) : ∃ inner : Inner, inner.written = ['\\', c] := by
  by_cases hc : c ∈ escapable
  · exact ⟨.escape c hc, rfl⟩
  · exact ⟨.backslash c hc, rfl⟩

theorem exists_double : ∀ {s : List Char}, s.foldl Standing.after .double = .outside →
    ∃ (inners : List Inner) (r : List Char), s = inners.flatMap Inner.written ++ '"' :: r ∧
      IsClosed r
  | [], h => by cases h
  | c :: s, h => by
    rw [List.foldl_cons, Standing.after] at h
    by_cases hquote : c = '"'
    · rw [if_pos hquote] at h
      exact ⟨[], s, by rw [hquote]; rfl, h⟩
    · rw [if_neg hquote] at h
      by_cases hback : c = '\\'
      · rw [if_pos hback] at h
        match s, h with
        | [], h => cases h
        | d :: s, h =>
          obtain ⟨inners, r, rfl, hr⟩ := exists_double h
          obtain ⟨inner, hinner⟩ := exists_inner d
          exact ⟨inner :: inners, r, by simp [hinner, hback], hr⟩
      · rw [if_neg hback] at h
        obtain ⟨inners, r, rfl, hr⟩ := exists_double h
        exact ⟨.plain c ⟨hquote, hback⟩ :: inners, r, by simp [Inner.written], hr⟩

theorem exists_part {c : Char} {s : List Char} (h : IsClosed (c :: s))
    (hblank : Text.isBlank c = false) :
    ∃ (part : Part) (r : List Char), c :: s = part.written ++ r ∧ IsClosed r := by
  rw [IsClosed, List.foldl_cons, Standing.after] at h
  by_cases hback : c = '\\'
  · rw [if_pos hback] at h
    cases s with
    | nil => cases h
    | cons d s => exact ⟨.escape d, s, by rw [hback]; rfl, h⟩
  · rw [if_neg hback] at h
    by_cases hsingle : c = '\x27'
    · rw [if_pos hsingle] at h
      obtain ⟨text, r, htext, rfl, hr⟩ := exists_single h
      exact ⟨.single text htext, r, by simp [Part.written, hsingle], hr⟩
    · rw [if_neg hsingle] at h
      by_cases hdouble : c = '"'
      · rw [if_pos hdouble] at h
        obtain ⟨inners, r, rfl, hr⟩ := exists_double h
        exact ⟨.double inners, r, by simp [Part.written, hdouble], hr⟩
      · rw [if_neg hdouble] at h
        exact ⟨.plain c ⟨hblank, hsingle, hdouble, hback⟩, s, rfl, h⟩

/-- A part in front of a command: it belongs to the first word if nothing parts them. -/
theorem exists_part_append (part : Part) (command : Command) :
    ∃ more : Command, more.written = part.written ++ command.written := by
  obtain ⟨items, trail, hparted⟩ := command
  cases items with
  | nil =>
    refine ⟨⟨[(.empty, ⟨[part], by simp⟩)], trail, by simp⟩, ?_⟩
    simp [Command.written, itemText, Gap.empty, Word.written]
  | cons item items =>
    obtain ⟨gap, w⟩ := item
    by_cases hgap : gap.chars = []
    · refine ⟨⟨(.empty, ⟨part :: w.parts, by simp⟩) :: items, trail, hparted⟩, ?_⟩
      simp [Command.written, itemText, Gap.empty, Word.written, hgap]
    · refine ⟨⟨(.empty, ⟨[part], by simp⟩) :: (gap, w) :: items, trail, ?_⟩, ?_⟩
      · intro item hitem
        rcases List.mem_cons.1 hitem with rfl | hitem
        · exact hgap
        · exact hparted item hitem
      · simp [Command.written, itemText, Gap.empty, Word.written]

theorem exists_blank_append {c : Char} (h : Text.isBlank c = true) (command : Command) :
    ∃ more : Command, more.written = c :: command.written := by
  obtain ⟨items, trail, hparted⟩ := command
  have hlonger : ∀ gap : Gap, ∀ d ∈ c :: gap.chars, Text.isBlank d = true := by
    intro gap d hd
    rcases List.mem_cons.1 hd with rfl | hd
    · exact h
    · exact gap.blank d hd
  cases items with
  | nil => exact ⟨⟨[], ⟨c :: trail.chars, hlonger trail⟩, by simp⟩, rfl⟩
  | cons item items =>
    exact ⟨⟨(⟨c :: item.1.chars, hlonger item.1⟩, item.2) :: items, trail, hparted⟩, rfl⟩

theorem part_written_ne_nil (part : Part) : part.written ≠ [] := by
  cases part <;> simp [Part.written]

@[elab_as_elim]
theorem IsClosed.induction {motive : List Char → Prop} (nil : motive [])
    (blank : ∀ (c : Char) (s : List Char), Text.isBlank c = true → motive s → motive (c :: s))
    (part : ∀ (part : Part) (r : List Char), motive r → motive (part.written ++ r))
    {s : List Char} (h : IsClosed s) : motive s := by
  -- Parts have no bound on their length, so the induction is on that of the text.
  induction hlength : s.length using Nat.strongRecOn generalizing s with
  | ind n ih =>
    cases s with
    | nil => exact nil
    | cons c s =>
      by_cases hblank : Text.isBlank c = true
      · have hs : IsClosed s := by
          rw [IsClosed, List.foldl_cons, after_blank hblank] at h
          exact h
        exact blank c s hblank (ih s.length (by simp at hlength; omega) hs rfl)
      · obtain ⟨first, r, hsplit, hr⟩ := exists_part h (Bool.eq_false_iff.2 hblank)
        have hshort : r.length < n := by
          have hpos : 0 < first.written.length :=
            List.length_pos_iff.2 (part_written_ne_nil first)
          rw [← hlength, hsplit, List.length_append]
          omega
        rw [hsplit]
        exact part first r (ih r.length hshort hr rfl)

theorem exists_command {s : List Char} (h : IsClosed s) :
    ∃ command : Command, command.written = s := by
  refine IsClosed.induction ?nil ?blank ?part h
  case nil => exact ⟨⟨[], .empty, by simp⟩, rfl⟩
  case blank =>
    rintro c s hblank ⟨command, rfl⟩
    exact exists_blank_append hblank command
  case part =>
    rintro part r ⟨command, rfl⟩
    exact exists_part_append part command

/-- Splitting gives back the words that a command line is written from, and the texts that are
written so are exactly the closed ones. -/
theorem splitCommand_written :
    (∀ command : Command, splitCommand (String.ofList command.written) =
      command.denoted.map String.ofList) ∧
    ∀ text : String, IsClosed text.toList ↔
      ∃ command : Command, String.ofList command.written = text := by
  constructor
  · intro command
    rw [splitCommand, String.toList_ofList, words_written]
  · intro text
    constructor
    · intro h
      obtain ⟨command, hcommand⟩ := exists_command h
      exact ⟨command, by rw [hcommand, String.ofList_toList]⟩
    · rintro ⟨command, rfl⟩
      rw [String.toList_ofList]
      exact isClosed_written command

end CompileFlags.Shell.Written
