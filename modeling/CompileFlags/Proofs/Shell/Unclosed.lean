import CompileFlags.Proofs.Shell.Written

set_option autoImplicit false

/-!
# Unclosed quotes

Splitting takes every text. It leaves quotes, backslashes and white space out, nothing else, and
puts nothing in. A quote that is open where the text ends is closed there, so that every text is
split as a closed one is.
-/

namespace CompileFlags.Shell.Unclosed

open Written

/-- The second list is the first one without some of its members, each of which `p` holds of. -/
inductive Deletes {α : Type} (p : α → Prop) : List α → List α → Prop
  | nil : Deletes p [] []
  | keep (a : α) {s t : List α} (h : Deletes p s t) : Deletes p (a :: s) (a :: t)
  | drop {a : α} {s t : List α} (ha : p a) (h : Deletes p s t) : Deletes p (a :: s) t

theorem Deletes.append {α : Type} {p : α → Prop} {s t s' t' : List α} (h : Deletes p s t)
    (h' : Deletes p s' t') : Deletes p (s ++ s') (t ++ t') := by
  induction h with
  | nil => exact h'
  | keep a _ ih => exact .keep a ih
  | drop ha _ ih => exact .drop ha ih

def IsMarkup (c : Char) : Prop :=
  c = '\x27' ∨ c = '"' ∨ c = '\\' ∨ Text.isBlank c = true

theorem isMarkup_single : IsMarkup '\x27' :=
  .inl rfl

theorem isMarkup_double : IsMarkup '"' :=
  .inr (.inl rfl)

theorem isMarkup_backslash : IsMarkup '\\' :=
  .inr (.inr (.inl rfl))

def ending (s : List Char) : Standing :=
  s.foldl Standing.after .outside

/-- The text with its open quotes closed. Outside quotes a backslash at the end escapes nothing: it
opens a word as empty quotes do, and these stand in its place. -/
def mended (s : List Char) : List Char :=
  match ending s with
  | .outside => s
  | .escaping => s.dropLast ++ ['\x27', '\x27']
  | .single => s ++ ['\x27']
  | .double => s ++ ['"']
  | .doubleEscaping => s ++ ['\\', '"']

def standingIn : Quoting → Standing
  | .none => .outside
  | .single => .single
  | .double => .double

/-- What reading the start of a text comes to, whatever is behind it: the words that end in it, and
the quotes and the word that are open after it. -/
structure Reads (start : List Char) (q : Quoting) (word : Option (List Char))
    (ended : List (List Char)) (q' : Quoting) (word' : Option (List Char)) : Prop where
  wordsFrom_append : ∀ r, wordsFrom q word (start ++ r) = ended ++ wordsFrom q' word' r
  standing : start.foldl Standing.after (standingIn q) = standingIn q'
  text : ∃ left, ended.flatten ++ word'.getD [] = word.getD [] ++ left ∧
    Deletes IsMarkup start left

variable {start more rest mending r : List Char} {q q' : Quoting}
  {word word' : Option (List Char)} {ended : List (List Char)} {c : Char}

theorem flatten_toList (word : Option (List Char)) : word.toList.flatten = word.getD [] := by
  cases word <;> simp

theorem Reads.refl (q : Quoting) (word : Option (List Char)) : Reads [] q word [] q word :=
  ⟨fun _ => rfl, rfl, [], by simp, .nil⟩

theorem Reads.trans {start' : List Char} {ended' : List (List Char)} {q'' : Quoting}
    {word'' : Option (List Char)} (h : Reads start q word ended q' word')
    (h' : Reads start' q' word' ended' q'' word'') :
    Reads (start ++ start') q word (ended ++ ended') q'' word'' := by
  obtain ⟨left, hleft, hdeletes⟩ := h.text
  obtain ⟨left', hleft', hdeletes'⟩ := h'.text
  refine ⟨fun r => ?_, ?_, left ++ left', ?_, hdeletes.append hdeletes'⟩
  · rw [List.append_assoc, h.wordsFrom_append, h'.wordsFrom_append, List.append_assoc]
  · rw [List.foldl_append, h.standing, h'.standing]
  · rw [List.flatten_append, List.append_assoc, hleft', ← List.append_assoc, hleft,
      List.append_assoc]

theorem Reads.glued (hwords : ∀ r, wordsFrom q word (start ++ r) = wordsFrom q' (glue word more) r)
    (hstanding : start.foldl Standing.after (standingIn q) = standingIn q')
    (hdeletes : Deletes IsMarkup start more) : Reads start q word [] q' (glue word more) :=
  ⟨hwords, hstanding, more, rfl, hdeletes⟩

theorem reads_blank (h : Text.isBlank c = true) (word : Option (List Char)) :
    Reads [c] .none word word.toList .none none :=
  ⟨wordsFrom_blank h word, after_blank h, [], by simp [flatten_toList],
    .drop (.inr (.inr (.inr h))) .nil⟩

theorem reads_plain (h : IsPlain c) (word : Option (List Char)) :
    Reads [c] .none word [] .none (glue word [c]) :=
  .glued (wordsFrom_plain h word) (after_plain h.2.1 h.2.2.1 h.2.2.2) (.keep c .nil)

theorem reads_escape (c : Char) (word : Option (List Char)) :
    Reads ['\\', c] .none word [] .none (glue word [c]) :=
  .glued (fun r => by simp [wordsFrom]) rfl (.drop isMarkup_backslash (.keep c .nil))

theorem reads_openSingle (word : Option (List Char)) :
    Reads ['\x27'] .none word [] .single (glue word []) :=
  .glued (fun r => by simp [wordsFrom]) rfl (.drop isMarkup_single .nil)

theorem reads_inSingle (h : c ≠ '\x27') (word : Option (List Char)) :
    Reads [c] .single word [] .single (glue word [c]) :=
  .glued (fun r => by simp [wordsFrom, h]) (if_neg h) (.keep c .nil)

theorem reads_closeSingle (word : Option (List Char)) : Reads ['\x27'] .single word [] .none word :=
  ⟨fun r => by simp [wordsFrom], rfl, [], by simp, .drop isMarkup_single .nil⟩

theorem reads_openDouble (word : Option (List Char)) :
    Reads ['"'] .none word [] .double (glue word []) :=
  .glued (fun r => by simp [wordsFrom]) rfl (.drop isMarkup_double .nil)

theorem Inner.deletes (inner : Inner) : Deletes IsMarkup inner.written inner.denoted := by
  cases inner with
  | plain c h => exact .keep c .nil
  | escape c h => exact .drop isMarkup_backslash (.keep c .nil)
  | backslash c h => exact .keep '\\' (.keep c .nil)

theorem reads_inner (inner : Inner) (word : Option (List Char)) :
    Reads inner.written .double word [] .double (glue word inner.denoted) :=
  .glued (wordsFrom_inner word inner) (after_inner inner) (Inner.deletes inner)

theorem reads_closeDouble (word : Option (List Char)) : Reads ['"'] .double word [] .none word :=
  ⟨fun r => by simp [wordsFrom], rfl, [], by simp, .drop isMarkup_double .nil⟩

/-- What is left of a text when no more of it can be read, which is nothing or a backslash with
nothing to escape, and what stands there when the text is mended. -/
inductive Rest : Quoting → List Char → List Char → Prop
  | outside : Rest .none [] []
  | escaping : Rest .none ['\\'] ['\x27', '\x27']
  | single : Rest .single [] ['\x27']
  | double : Rest .double [] ['"']
  | doubleEscaping : Rest .double ['\\'] ['\\', '\\', '"']

def IsRead (q : Quoting) (word : Option (List Char)) (s : List Char) : Prop :=
  ∃ start rest mending ended q' word', s = start ++ rest ∧ Reads start q word ended q' word' ∧
    Rest q' rest mending

theorem Reads.isRead (h : Reads start q word ended q' word') (hr : IsRead q' word' r) :
    IsRead q word (start ++ r) := by
  obtain ⟨start', rest, mending, ended', q'', word'', rfl, h', hrest⟩ := hr
  exact ⟨start ++ start', rest, mending, ended ++ ended', q'', word'',
    (List.append_assoc ..).symm, h.trans h', hrest⟩

theorem Rest.isRead (h : Rest q rest mending) (word : Option (List Char)) : IsRead q word rest :=
  ⟨[], rest, mending, [], q, word, rfl, .refl q word, h⟩

theorem isRead (q : Quoting) (word : Option (List Char)) (s : List Char) : IsRead q word s := by
  -- The cases are those of the reader: what it takes off the text in each of them is one step.
  induction q, word, s using wordsFrom.induct with
  | case1 q word =>
    cases q with
    | none => exact Rest.outside.isRead word
    | single => exact Rest.single.isRead word
    | double => exact Rest.double.isRead word
  | case2 word c r ih => exact (reads_escape c word).isRead ih
  | case3 word => exact Rest.escaping.isRead word
  | case4 word r _ _ ih => exact (reads_openSingle word).isRead ih
  | case5 word r _ _ _ ih => exact (reads_openDouble word).isRead ih
  | case6 word c r _ _ _ _ hblank ih => exact (reads_blank hblank word).isRead ih
  | case7 word c r hmore hend hsingle hdouble hblank ih =>
    have hback : c ≠ '\\' := by
      intro hback
      cases r with
      | nil => exact hend hback rfl
      | cons d r => exact hmore d r hback rfl
    have hplain : IsPlain c := ⟨Bool.eq_false_iff.2 hblank, hsingle, hdouble, hback⟩
    exact (reads_plain hplain word).isRead ih
  | case8 word r ih => exact (reads_closeSingle word).isRead ih
  | case9 word c r hsingle ih => exact (reads_inSingle hsingle word).isRead ih
  | case10 word c r hprotected ih =>
    exact (reads_inner (.escape c ((isProtected_iff c).1 hprotected)) word).isRead ih
  | case11 word c r hprotected ih =>
    have hc : c ∉ escapable := fun hc => hprotected ((isProtected_iff c).2 hc)
    exact (reads_inner (.backslash c hc) word).isRead ih
  | case12 word r _ ih => exact (reads_closeDouble word).isRead ih
  | case13 word c r hmore hdouble ih =>
    -- A backslash gets here only where the text ends behind it.
    by_cases hback : c = '\\'
    · subst hback
      cases r with
      | nil => exact Rest.doubleEscaping.isRead word
      | cons d r => exact absurd rfl (hmore d r rfl)
    · exact (reads_inner (.plain c ⟨hdouble, hback⟩) word).isRead ih

theorem Rest.deletes (h : Rest q rest mending) (word : Option (List Char)) :
    ∃ left, (wordsFrom q word rest).flatten = word.getD [] ++ left ∧
      Deletes IsMarkup rest left := by
  cases h with
  | outside => exact ⟨[], by simp [wordsFrom, flatten_toList], .nil⟩
  | escaping => exact ⟨[], by simp [wordsFrom], .drop isMarkup_backslash .nil⟩
  | single => exact ⟨[], by simp [wordsFrom, flatten_toList], .nil⟩
  | double => exact ⟨[], by simp [wordsFrom, flatten_toList], .nil⟩
  | doubleEscaping => exact ⟨['\\'], by simp [wordsFrom, glue], .keep _ .nil⟩

theorem words_deletes (s : List Char) : Deletes IsMarkup s (words s).flatten := by
  obtain ⟨start, rest, mending, ended, q, word, rfl, hreads, hrest⟩ := isRead .none none s
  obtain ⟨left, hleft, hdeletes⟩ := hreads.text
  obtain ⟨left', hleft', hdeletes'⟩ := hrest.deletes word
  have hwords : (words (start ++ rest)).flatten = left ++ left' := by
    rw [words, hreads.wordsFrom_append, List.flatten_append, hleft', ← List.append_assoc, hleft]
    rfl
  rw [hwords]
  exact hdeletes.append hdeletes'

theorem Reads.ending (h : Reads start .none none ended q word) (r : List Char) :
    ending (start ++ r) = r.foldl Standing.after (standingIn q) := by
  rw [Unclosed.ending, List.foldl_append]
  exact congrArg (fun standing => r.foldl Standing.after standing) h.standing

theorem Reads.mended (h : Reads start .none none ended q word) (hrest : Rest q rest mending) :
    mended (start ++ rest) = start ++ mending := by
  rw [Unclosed.mended, h.ending]
  cases hrest with
  | outside => rfl
  | escaping => simp [standingIn, Standing.after]
  | single => simp [standingIn]
  | double => simp [standingIn]
  | doubleEscaping => simp [standingIn, Standing.after]

theorem Rest.after_mending (h : Rest q rest mending) :
    mending.foldl Standing.after (standingIn q) = .outside := by
  cases h <;> rfl

theorem Rest.wordsFrom_mending (h : Rest q rest mending) (word : Option (List Char)) :
    wordsFrom q word mending = wordsFrom q word rest := by
  cases h with
  | outside => rfl
  | escaping => simp [wordsFrom, glue]
  | single => simp [wordsFrom]
  | double => simp [wordsFrom]
  | doubleEscaping => simp [wordsFrom, isProtected]

theorem isClosed_mended (s : List Char) : IsClosed (mended s) := by
  obtain ⟨start, rest, mending, ended, q, word, rfl, hreads, hrest⟩ := isRead .none none s
  rw [hreads.mended hrest]
  exact (hreads.ending mending).trans hrest.after_mending

theorem words_mended (s : List Char) : words (mended s) = words s := by
  obtain ⟨start, rest, mending, ended, q, word, rfl, hreads, hrest⟩ := isRead .none none s
  rw [hreads.mended hrest, words, words, hreads.wordsFrom_append, hreads.wordsFrom_append,
    hrest.wordsFrom_mending]

theorem exists_command_words (s : List Char) :
    ∃ command : Command, command.written = mended s ∧ words s = command.denoted := by
  obtain ⟨command, hwritten⟩ := exists_command (isClosed_mended s)
  exact ⟨command, hwritten, by rw [← words_mended, ← hwritten, words_written]⟩

/-- Splitting leaves nothing out of a text but quotes, backslashes and white space, and puts nothing
in. A text that ends in quotes is split as if they were closed there. -/
theorem splitCommand_deletes_closes (command : String) :
    Deletes IsMarkup command.toList (String.join (splitCommand command)).toList ∧
      (ending command.toList = .single →
        splitCommand (command ++ "'") = splitCommand command) ∧
      (ending command.toList = .double →
        splitCommand (command ++ "\"") = splitCommand command) ∧
      (ending command.toList = .doubleEscaping →
        splitCommand (command ++ "\\\"") = splitCommand command) := by
  have hclosed : ∀ close : String, mended command.toList = command.toList ++ close.toList →
      splitCommand (command ++ close) = splitCommand command := by
    intro close hmended
    rw [splitCommand, splitCommand, String.toList_append, ← hmended, words_mended]
  refine ⟨?_, fun h => hclosed _ ?_, fun h => hclosed _ ?_, fun h => hclosed _ ?_⟩
  · have hjoin : (String.join (splitCommand command)).toList = (words command.toList).flatten := by
      simp [splitCommand, List.flatMap_map]
    rw [hjoin]
    exact words_deletes command.toList
  · simp [mended, h]
  · simp [mended, h]
  · simp [mended, h]

/-- White space and a double quote in single quotes that stay open, a single quote in double quotes
that do, and a backslash at the end of such. -/
theorem splitCommand_deletes_closes_openQuotes :
    (ending "cc -I'a \"b".toList = .single ∧ splitCommand "cc -I'a \"b" = ["cc", "-Ia \"b"] ∧
      splitCommand ("cc -I'a \"b" ++ "'") = splitCommand "cc -I'a \"b") ∧
    (ending "cc \"it's".toList = .double ∧ splitCommand "cc \"it's" = ["cc", "it's"] ∧
      splitCommand ("cc \"it's" ++ "\"") = splitCommand "cc \"it's") ∧
    (ending "cc \"a\\".toList = .doubleEscaping ∧ splitCommand "cc \"a\\" = ["cc", "a\\"] ∧
      splitCommand ("cc \"a\\" ++ "\\\"") = splitCommand "cc \"a\\") := by
  have hsingle : ending "cc -I'a \"b".toList = .single := by decide
  have hdouble : ending "cc \"it's".toList = .double := by decide
  have hescaping : ending "cc \"a\\".toList = .doubleEscaping := by decide
  exact ⟨⟨hsingle, by decide, (splitCommand_deletes_closes _).2.1 hsingle⟩,
    ⟨hdouble, by decide, (splitCommand_deletes_closes _).2.2.1 hdouble⟩,
    ⟨hescaping, by decide, (splitCommand_deletes_closes _).2.2.2 hescaping⟩⟩

end CompileFlags.Shell.Unclosed
