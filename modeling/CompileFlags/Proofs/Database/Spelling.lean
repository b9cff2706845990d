import CompileFlags.Proofs.Database.Items
import Mathlib.Logic.Relation

set_option autoImplicit false

namespace CompileFlags.Database

def Item.BuildOnly : Item → Prop
  | compile | output (some _) | joinedOutput _ | input _ => True
  | _ => False

/-- Two spellings of one include directory. -/
inductive Item.Respelled (directory : Path) : Item → Item → Prop
  | apart {switch dir : String} :
      Respelled directory (.joined switch dir) (.separate switch (some dir))
  | together {switch dir : String} (h : dir ≠ "") :
      Respelled directory (.separate switch (some dir)) (.joined switch dir)
  | absoluteApart {switch dir : String} :
      Respelled directory (.separate switch (some dir))
        (.separate switch (some (directory.absolutize ⟨dir⟩).text))
  | absoluteTogether {switch dir : String} :
      Respelled directory (.joined switch dir) (.joined switch (directory.absolutize ⟨dir⟩).text)

/-- One step from a command to another spelling of it. Nothing is inserted into the empty command,
which has no compiler. An input that is inserted right behind the launcher becomes part of it. What
follows the launcher is never deleted: a plain argument behind it would go with it. -/
inductive Rewrite (file directory : Path) : List String → List String → Prop
  | respell {argv run : List String} (before : List Item) {after : List Item} {item item' : Item}
      (h : Parsed file directory argv run (before ++ item :: after))
      (hitem : item.Respelled directory item') :
      Rewrite file directory argv (run ++ (before ++ item' :: after).flatMap Item.words)
  | insert {argv run : List String} (before : List Item) {after : List Item} {item : Item}
      (h : Parsed file directory argv run (before ++ after)) (hrun : run ≠ [])
      (hvalid : item.Valid file directory) (hitem : item.BuildOnly) :
      Rewrite file directory argv (run ++ (before ++ item :: after).flatMap Item.words)
  | delete {argv run : List String} (before : List Item) {after : List Item} {item : Item}
      (h : Parsed file directory argv run (before ++ item :: after)) (hbefore : before ≠ [])
      (hitem : item.BuildOnly) :
      Rewrite file directory argv (run ++ (before ++ after).flatMap Item.words)
  | launcher {argv run : List String} {items : List Item}
      (h : Parsed file directory argv run items) (first : String) {more : List String}
      (hplain : ∀ arg ∈ more, ¬ Dashed arg) :
      Rewrite file directory argv (first :: more ++ items.flatMap Item.words)

def EndsWhole (file directory : Path) (argv : List String) : Prop :=
  ∀ run items, Parsed file directory argv run items → ∀ item ∈ items, ¬ item.IsOpen

variable {file directory : Path}

theorem Parsed.run_ne_nil_of_mem {argv run : List String} {items : List Item} {item : Item}
    (h : Parsed file directory argv run items) (hitem : item ∈ items) : run ≠ [] := by
  refine h.run_ne_nil fun hargv => ?_
  have hwords := (List.append_eq_nil_iff.1 (h.argv_eq.symm.trans hargv)).2
  exact item.words_ne_nil (List.flatMap_eq_nil_iff.1 hwords item hitem)

theorem head?_words_cons (item : Item) (items : List Item) :
    ((item :: items).flatMap Item.words).head? = item.words.head? := by
  obtain ⟨arg, rest, hwords⟩ := List.exists_cons_of_ne_nil item.words_ne_nil
  rw [List.flatMap_cons, hwords]
  rfl

theorem head?_words_append {before : List Item} (h : before ≠ []) (items items' : List Item) :
    ((before ++ items).flatMap Item.words).head? = ((before ++ items').flatMap Item.words).head? := by
  obtain ⟨item, rest, rfl⟩ := List.exists_cons_of_ne_nil h
  rw [List.cons_append, List.cons_append, head?_words_cons, head?_words_cons]

theorem Item.Valid.dashed {item : Item} (h : item.Valid file directory) :
    (∃ arg, item = .input arg ∨ item = .other arg) ∨ ∀ arg ∈ item.words.head?, Dashed arg := by
  cases item with
  | compile | output _ =>
    right
    rintro arg ⟨⟩
    decide
  | joinedOutput arg =>
    right
    rintro arg ⟨⟩
    obtain ⟨-, out, rfl⟩ := h
    exact Dashed.append (by decide) out
  | input arg => exact .inl ⟨arg, .inl rfl⟩
  | separate switch dir =>
    right
    rintro arg ⟨⟩
    exact dashed_of_include switch h
  | joined switch dir =>
    right
    rintro arg ⟨⟩
    exact (dashed_of_include switch h.1).append dir
  | other arg => exact .inl ⟨arg, .inr rfl⟩

theorem Item.Respelled.valid {item item' : Item} (h : item.Respelled directory item')
    (hvalid : item.Valid file directory) : item'.Valid file directory := by
  cases h with
  | apart => exact hvalid.1
  | together hdir => exact ⟨hvalid, hdir⟩
  | absoluteApart => exact hvalid
  | absoluteTogether => exact ⟨hvalid.1, Path.normalize_text_ne_empty _⟩

theorem Item.Respelled.not_isOpen {item item' : Item} (h : item.Respelled directory item') :
    ¬ item'.IsOpen := by
  cases h <;> exact not_false

theorem Item.Respelled.dashed {item item' : Item} (h : item.Respelled directory item')
    (hvalid : item.Valid file directory) : ∀ arg ∈ item'.words.head?, Dashed arg := by
  rcases (h.valid hvalid).dashed with ⟨arg, rfl | rfl⟩ | hdashed
  · cases h
  · cases h
  · exact hdashed

theorem Item.Respelled.flags_eq (habsolute : directory.isAbsolute = true) {item item' : Item}
    (h : item.Respelled directory item') : item'.flags directory = item.flags directory := by
  cases h with
  | apart | together => rfl
  | absoluteApart | absoluteTogether =>
    simp only [Item.flags, Path.absolutize_absolutize habsolute]

theorem Item.BuildOnly.not_isOpen {item : Item} (h : item.BuildOnly) : ¬ item.IsOpen := by
  cases item with
  | compile | joinedOutput _ | input _ | joined _ _ | other _ => exact not_false
  | output out | separate _ out =>
    cases out with
    | none => exact fun _ => h
    | some _ => exact not_false

theorem Item.BuildOnly.flags_eq {item : Item} (h : item.BuildOnly) : item.flags directory = [] := by
  cases item with
  | compile | output _ | joinedOutput _ | input _ => rfl
  | separate _ _ | joined _ _ | other _ => exact h.elim

def ReadsWhole (file directory : Path) (argv : List String) (flags : FlagList) : Prop :=
  ∃ run items, Parsed file directory argv run items ∧ (∀ item ∈ items, ¬ item.IsOpen) ∧
    items.flatMap (Item.flags directory) = flags

theorem ReadsWhole.flagsOfCommand_eq {argv : List String} {flags : FlagList}
    (h : ReadsWhole file directory argv flags) : flagsOfCommand argv file directory = flags := by
  obtain ⟨run, items, hparsed, -, rfl⟩ := h
  exact hparsed.flagsOfCommand_eq

theorem EndsWhole.readsWhole {argv : List String} (h : EndsWhole file directory argv) :
    ReadsWhole file directory argv (flagsOfCommand argv file directory) := by
  have hparsed := parsed_itemsOf file directory argv
  exact ⟨_, _, hparsed, h _ _ hparsed, hparsed.flagsOfCommand_eq.symm⟩

theorem readsWhole_words {run : List String} {items : List Item} {flags : FlagList}
    (hrun : run ≠ []) (hplain : ∀ arg ∈ run.tail, ¬ Dashed arg)
    (hdashed : ∀ arg ∈ (items.flatMap Item.words).head?, Dashed arg)
    (hitems : ∀ item ∈ items, item.Valid file directory ∧ ¬ item.IsOpen)
    (hflags : items.flatMap (Item.flags directory) = flags) :
    ReadsWhole file directory (run ++ items.flatMap Item.words) flags := by
  have hclosed : ∀ item ∈ items, ¬ item.IsOpen := fun item hitem => (hitems item hitem).2
  exact ⟨run, items, ⟨rfl, fun _ => hrun, hplain, hdashed,
    reads_words (fun item hitem => (hitems item hitem).1) hclosed⟩, hclosed, hflags⟩

variable {argv run : List String} {before after : List Item} {item : Item}

theorem Parsed.respell (habsolute : directory.isAbsolute = true) {item' : Item}
    (h : Parsed file directory argv run (before ++ item :: after))
    (hclosed : ∀ i ∈ before ++ item :: after, ¬ i.IsOpen)
    (hitem : item.Respelled directory item') :
    ReadsWhole file directory (run ++ (before ++ item' :: after).flatMap Item.words)
      ((before ++ item :: after).flatMap (Item.flags directory)) := by
  have hvalid := h.reads.valid
  have hmem : item ∈ before ++ item :: after := by simp
  refine readsWhole_words (h.run_ne_nil_of_mem hmem) h.plain ?_ ?_ ?_
  · -- right behind the launcher, the new spelling has to start with a dash itself
    by_cases hbefore : before = []
    · rw [hbefore, List.nil_append, head?_words_cons]
      exact hitem.dashed (hvalid item hmem)
    · rw [head?_words_append hbefore _ (item :: after)]
      exact h.dashed
  · intro i hi
    rcases List.mem_append.1 hi with hi | hi
    · exact ⟨hvalid i (by simp [hi]), hclosed i (by simp [hi])⟩
    · rcases List.mem_cons.1 hi with rfl | hi
      · exact ⟨hitem.valid (hvalid item hmem), hitem.not_isOpen⟩
      · exact ⟨hvalid i (by simp [hi]), hclosed i (by simp [hi])⟩
  · simp only [List.flatMap_append, List.flatMap_cons, hitem.flags_eq habsolute]

theorem Parsed.insert (h : Parsed file directory argv run (before ++ after)) (hrun : run ≠ [])
    (hclosed : ∀ i ∈ before ++ after, ¬ i.IsOpen) (hvalid : item.Valid file directory)
    (hitem : item.BuildOnly) :
    ReadsWhole file directory (run ++ (before ++ item :: after).flatMap Item.words)
      ((before ++ after).flatMap (Item.flags directory)) := by
  have hflags : (before ++ item :: after).flatMap (Item.flags directory) =
      (before ++ after).flatMap (Item.flags directory) := by
    simp [hitem.flags_eq]
  have hitems : ∀ i ∈ before ++ item :: after, i.Valid file directory ∧ ¬ i.IsOpen := by
    intro i hi
    by_cases hsame : i = item
    · rw [hsame]
      exact ⟨hvalid, hitem.not_isOpen⟩
    · have hmem : i ∈ before ++ after := by simpa [hsame] using hi
      exact ⟨h.reads.valid i hmem, hclosed i hmem⟩
  by_cases hbefore : before = []
  · subst hbefore
    rcases hvalid.dashed with ⟨arg, rfl | rfl⟩ | hdashed
    · -- the input follows the launcher, and is read as part of it
      have hplain : ∀ other ∈ (run ++ [arg]).tail, ¬ Dashed other := by
        intro other hother
        rw [List.tail_append_of_ne_nil hrun] at hother
        rcases List.mem_append.1 hother with hother | hother
        · exact h.plain other hother
        · rw [List.mem_singleton.1 hother]
          exact hvalid.1
      have hread := readsWhole_words (List.append_ne_nil_of_left_ne_nil hrun [arg]) hplain h.dashed
        (fun i hi => hitems i (List.mem_cons_of_mem _ hi)) rfl
      simpa [Item.words] using hread
    · exact hitem.elim
    · refine readsWhole_words hrun h.plain ?_ hitems hflags
      rw [List.nil_append, head?_words_cons]
      exact hdashed
  · refine readsWhole_words hrun h.plain ?_ hitems hflags
    rw [head?_words_append hbefore _ after]
    exact h.dashed

theorem Parsed.delete (h : Parsed file directory argv run (before ++ item :: after))
    (hbefore : before ≠ []) (hclosed : ∀ i ∈ before ++ item :: after, ¬ i.IsOpen)
    (hitem : item.BuildOnly) :
    ReadsWhole file directory (run ++ (before ++ after).flatMap Item.words)
      ((before ++ item :: after).flatMap (Item.flags directory)) := by
  have hmem : item ∈ before ++ item :: after := by simp
  refine readsWhole_words (h.run_ne_nil_of_mem hmem) h.plain ?_ ?_ ?_
  · rw [head?_words_append hbefore _ (item :: after)]
    exact h.dashed
  · intro i hi
    have hkept : i ∈ before ++ item :: after := by
      rcases List.mem_append.1 hi with hi | hi <;> simp [hi]
    exact ⟨h.reads.valid i hkept, hclosed i hkept⟩
  · simp [hitem.flags_eq]

theorem Rewrite.readsWhole (habsolute : directory.isAbsolute = true) {argv' : List String}
    {flags : FlagList} (h : Rewrite file directory argv argv')
    (hread : ReadsWhole file directory argv flags) : ReadsWhole file directory argv' flags := by
  obtain ⟨run, items, hparsed, hclosed, rfl⟩ := hread
  cases h with
  | respell before h hitem =>
    obtain ⟨rfl, rfl⟩ := h.unique hparsed
    exact h.respell habsolute hclosed hitem
  | insert before h hrun hvalid hitem =>
    obtain ⟨rfl, rfl⟩ := h.unique hparsed
    exact h.insert hrun hclosed hvalid hitem
  | delete before h hbefore hitem =>
    obtain ⟨rfl, rfl⟩ := h.unique hparsed
    exact h.delete hbefore hclosed hitem
  | launcher h first hplain =>
    obtain ⟨rfl, rfl⟩ := h.unique hparsed
    exact readsWhole_words (List.cons_ne_nil _ _) hplain h.dashed
      (fun item hitem => ⟨h.reads.valid item hitem, hclosed item hitem⟩) rfl

/-- A command that takes all its values leaves the same flags after any number of steps. -/
theorem flagsOfCommand_rewrites {argv argv' : List String} {file directory : Path}
    (habsolute : directory.isAbsolute = true) (hwhole : EndsWhole file directory argv)
    (h : Relation.ReflTransGen (Rewrite file directory) argv argv') :
    flagsOfCommand argv' file directory = flagsOfCommand argv file directory := by
  have hread : ReadsWhole file directory argv' (flagsOfCommand argv file directory) := by
    induction h with
    | refl => exact hwhole.readsWhole
    | tail _ hstep ih => exact hstep.readsWhole habsolute ih
  exact hread.flagsOfCommand_eq

/-- From one spelling to another that shares nothing with it but the input. -/
theorem flagsOfCommand_rewrites_chain :
    Relation.ReflTransGen (Rewrite ⟨"/p/a.c"⟩ ⟨"/p"⟩) ["g++", "-Iinc", "-c", "a.c"]
      ["ccache", "clang++", "-I", "/p/inc", "a.c"] ∧
    flagsOfCommand ["ccache", "clang++", "-I", "/p/inc", "a.c"] ⟨"/p/a.c"⟩ ⟨"/p"⟩ =
      flagsOfCommand ["g++", "-Iinc", "-c", "a.c"] ⟨"/p/a.c"⟩ ⟨"/p"⟩ := by
  have hstart : Parsed ⟨"/p/a.c"⟩ ⟨"/p"⟩ ["g++", "-Iinc", "-c", "a.c"] ["g++"]
      [.joined "-I" "inc", .compile, .input "a.c"] := parsed_iff.2 (by decide +kernel)
  have hapart : Parsed ⟨"/p/a.c"⟩ ⟨"/p"⟩ ["g++", "-I", "inc", "-c", "a.c"] ["g++"]
      [.separate "-I" (some "inc"), .compile, .input "a.c"] := parsed_iff.2 (by decide +kernel)
  have habsolute : Parsed ⟨"/p/a.c"⟩ ⟨"/p"⟩ ["g++", "-I", "/p/inc", "-c", "a.c"] ["g++"]
      [.separate "-I" (some "/p/inc"), .compile, .input "a.c"] := parsed_iff.2 (by decide +kernel)
  have hinput : Parsed ⟨"/p/a.c"⟩ ⟨"/p"⟩ ["g++", "./a.c", "-I", "/p/inc", "-c", "a.c"]
      ["g++", "./a.c"] [.separate "-I" (some "/p/inc"), .compile, .input "a.c"] :=
    parsed_iff.2 (by decide +kernel)
  have hdeleted : Parsed ⟨"/p/a.c"⟩ ⟨"/p"⟩ ["g++", "./a.c", "-I", "/p/inc", "a.c"]
      ["g++", "./a.c"] [.separate "-I" (some "/p/inc"), .input "a.c"] :=
    parsed_iff.2 (by decide +kernel)
  have hwhole : EndsWhole ⟨"/p/a.c"⟩ ⟨"/p"⟩ ["g++", "-Iinc", "-c", "a.c"] := by
    intro run items h
    obtain ⟨-, rfl⟩ := hstart.unique h
    simp [Item.IsOpen]
  have hvalid : (Item.input "./a.c").Valid ⟨"/p/a.c"⟩ ⟨"/p"⟩ := isInput_iff.1 (by decide +kernel)
  have hplain : ∀ arg ∈ ["clang++"], ¬ Dashed arg := by decide
  have hsteps : Relation.ReflTransGen (Rewrite ⟨"/p/a.c"⟩ ⟨"/p"⟩) ["g++", "-Iinc", "-c", "a.c"]
      ["ccache", "clang++", "-I", "/p/inc", "a.c"] :=
    .head (.respell [] hstart .apart) <| .head (.respell [] hapart .absoluteApart) <|
      .head (.insert [] habsolute (by simp) hvalid trivial) <|
      .head (.delete [.separate "-I" (some "/p/inc")] hinput (by simp) trivial) <|
      .single (.launcher hdeleted "ccache" hplain)
  exact ⟨hsteps, flagsOfCommand_rewrites (by decide) hwhole hsteps⟩

end CompileFlags.Database
