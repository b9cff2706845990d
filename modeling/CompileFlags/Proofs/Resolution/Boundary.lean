import CompileFlags.BuildInfo.Basic
import CompileFlags.Proofs.Database.Includes

set_option autoImplicit false

/-!
# The tokens of two sections

A compiler reads its arguments from left to right: a switch with a value takes the next token,
whatever it is. The flags of a build information file never end in a switch without its value, and
those of a recorded command do only where a lone switch is their last flag. There the switch takes
the first token of the next section; everywhere else the two sections are read as they are alone.
-/

namespace CompileFlags

namespace Argv

def valueSwitches : List String := ["-I", "-isystem", "-idirafter", "-iquote", "-D"]

/-- What a compiler reads from its arguments. At the end of them a switch has no value. -/
inductive Item where
  | switch (name : String) (value : Option String)
  | token (text : String)
deriving DecidableEq

def items : List String → List Item
  | [] => []
  | token :: rest =>
    if token ∈ valueSwitches then
      match rest with
      | [] => [.switch token none]
      | value :: rest => .switch token (some value) :: items rest
    else .token token :: items rest

/-- The arguments end in a switch without its value. -/
def EndsOpen (argv : List String) : Prop :=
  ∃ name, (items argv).getLast? = some (.switch name none)

@[simp] theorem items_nil : items [] = [] := rfl

theorem items_lone {switch : String} (h : switch ∈ valueSwitches) :
    items [switch] = [.switch switch none] := by
  unfold items
  rw [if_pos h]

theorem items_switch {switch : String} (h : switch ∈ valueSwitches) (value : String)
    (rest : List String) :
    items (switch :: value :: rest) = .switch switch (some value) :: items rest := by
  rw [items.eq_def]
  simp only [if_pos h]

theorem items_token {token : String} (h : token ∉ valueSwitches) (rest : List String) :
    items (token :: rest) = .token token :: items rest := by
  rw [items.eq_def]
  simp only [if_neg h]

theorem endsOpen_cons {item : Item} {argv rest : List String} (hread : items argv = item :: items rest)
    (hitem : ∀ name, item ≠ .switch name none) : EndsOpen argv ↔ EndsOpen rest := by
  unfold EndsOpen
  rw [hread]
  cases hrest : items rest with
  | nil => simp [hitem]
  | cons other others => rw [List.getLast?_cons_cons]

theorem exists_of_endsOpen {argv : List String} (h : EndsOpen argv) :
    ∃ front name, argv = front ++ [name] ∧ name ∈ valueSwitches ∧
      items argv = items front ++ [.switch name none] ∧
      ∀ token rest, items (argv ++ token :: rest) =
        items front ++ .switch name (some token) :: items rest := by
  induction argv using items.induct with
  | case1 => simp [EndsOpen, items] at h
  | case2 name hname =>
    exact ⟨[], name, rfl, hname, items_lone hname, fun token rest => items_switch hname token rest⟩
  | case3 switch hswitch value rest ih =>
    have hread := items_switch hswitch value rest
    obtain ⟨front, name, rfl, hname, hrest, hmore⟩ := ih ((endsOpen_cons hread (by simp)).1 h)
    refine ⟨switch :: value :: front, name, rfl, hname, ?_, fun token rest => ?_⟩
    · rw [hread, hrest, items_switch hswitch]
      rfl
    · rw [List.cons_append, List.cons_append, items_switch hswitch, hmore, items_switch hswitch]
      rfl
  | case4 token rest htoken ih =>
    have hread := items_token htoken rest
    obtain ⟨front, name, rfl, hname, hrest, hmore⟩ := ih ((endsOpen_cons hread (by simp)).1 h)
    refine ⟨token :: front, name, rfl, hname, ?_, fun other rest => ?_⟩
    · rw [hread, hrest, items_token htoken]
      rfl
    · rw [List.cons_append, items_token htoken, hmore, items_token htoken]
      rfl

theorem items_append {argv : List String} (h : ¬ EndsOpen argv) (more : List String) :
    items (argv ++ more) = items argv ++ items more := by
  induction argv using items.induct with
  | case1 => rfl
  | case2 name hname => exact absurd ⟨name, by rw [items_lone hname]; rfl⟩ h
  | case3 switch hswitch value rest ih =>
    have hread := items_switch hswitch value rest
    rw [List.cons_append, List.cons_append, items_switch hswitch, hread,
      ih fun hrest => h ((endsOpen_cons hread (by simp)).2 hrest)]
    rfl
  | case4 token rest htoken ih =>
    have hread := items_token htoken rest
    rw [List.cons_append, items_token htoken, hread,
      ih fun hrest => h ((endsOpen_cons hread (by simp)).2 hrest)]
    rfl

theorem items_append_iff (argv more : List String) :
    items (argv ++ more) = items argv ++ items more ↔ more = [] ∨ ¬ EndsOpen argv := by
  constructor
  · intro h
    by_cases hopen : EndsOpen argv
    · left
      cases more with
      | nil => rfl
      | cons token rest =>
        obtain ⟨front, name, -, -, hargv, hmore⟩ := exists_of_endsOpen hopen
        rw [hmore, hargv, List.append_assoc] at h
        have htail := List.append_cancel_left h
        simp at htail
    · exact Or.inr hopen
  · rintro (rfl | hopen)
    · simp [items]
    · exact items_append hopen more

theorem endsOpen_of_mem {argv : List String} {name : String}
    (h : .switch name none ∈ items argv) : EndsOpen argv := by
  induction argv using items.induct with
  | case1 => simp [items] at h
  | case2 switch hswitch => exact ⟨switch, by rw [items_lone hswitch]; rfl⟩
  | case3 switch hswitch value rest ih =>
    have hread := items_switch hswitch value rest
    rw [hread] at h
    exact (endsOpen_cons hread (by simp)).2 (ih (by simpa using h))
  | case4 token rest htoken ih =>
    have hread := items_token htoken rest
    rw [hread] at h
    exact (endsOpen_cons hread (by simp)).2 (ih (by simpa using h))

end Argv

open Argv

theorem mem_valueSwitches_of_include {switch : String} (h : switch ∈ Database.includeSwitches) :
    switch ∈ valueSwitches := by
  revert switch
  decide

theorem tokens_of_valueSwitch {f : Flag} (hswitch : f.switch ∈ valueSwitches)
    (hvalue : f.value ≠ "") : f.tokens = [f.switch, f.value] := by
  have hjoined : ∀ s ∈ valueSwitches, s.toList.getLast? ≠ some '=' := by decide
  rw [Flag.tokens, if_neg hvalue, if_neg (hjoined _ hswitch)]

theorem not_valueSwitch_of_isCanonical {text : String} (h : Path.IsCanonical ⟨text⟩) :
    text ∉ valueSwitches := by
  intro hmem
  have hrelative : ∀ s ∈ valueSwitches, (Path.mk s).isAbsolute = false := by decide
  have habsolute := h.isAbsolute
  rw [hrelative text hmem] at habsolute
  contradiction

theorem ne_empty_of_isCanonical {text : String} (h : Path.IsCanonical ⟨text⟩) : text ≠ "" := by
  have hempty := Path.isEmpty_of_isAbsolute h.isAbsolute
  rintro rfl
  simp [Path.isEmpty] at hempty

def Valued (flags : FlagList) : Prop :=
  ∀ f ∈ flags, f.switch ∈ valueSwitches ∧ f.value ≠ ""

theorem flagsFrom_valued (base : Path) (at_ : BuildInfo.Section) (lines : List (List Char)) :
    Valued (BuildInfo.flagsFrom base at_ lines) := by
  induction lines generalizing at_ with
  | nil => simp [Valued, BuildInfo.flagsFrom]
  | cons line lines ih =>
    unfold BuildInfo.flagsFrom
    split
    · exact ih at_
    · next hline =>
      split
      · exact ih _
      · have hflag : ∀ f, at_.flag? base line = some f →
            f.switch ∈ valueSwitches ∧ f.value ≠ "" := by
          intro f hf
          cases at_ with
          | includeDirs =>
            cases hf
            exact ⟨by simp [Flag.ofSystemInclude, valueSwitches], Path.normalize_text_ne_empty _⟩
          | defines =>
            cases hf
            refine ⟨by simp [Flag.ofDefine, valueSwitches], ?_⟩
            simpa [Flag.ofDefine] using hline
          | other => cases hf
        intro f hf
        rcases List.mem_append.1 hf with hf | hf
        · exact hflag f (by simpa using hf)
        · exact ih at_ f hf

theorem items_tokens_of_valued {flags : FlagList} (h : Valued flags) :
    items flags.tokens = flags.map fun f => .switch f.switch (some f.value) := by
  induction flags with
  | nil => rfl
  | cons f flags ih =>
    obtain ⟨hswitch, hvalue⟩ := h f (by simp)
    have htokens : FlagList.tokens (f :: flags) = f.switch :: f.value :: FlagList.tokens flags := by
      rw [FlagList.tokens, List.flatMap_cons, tokens_of_valueSwitch hswitch hvalue]
      rfl
    rw [htokens, items_switch hswitch, ih fun g hg => h g (List.mem_cons_of_mem f hg)]
    rfl

namespace Database

/-- Bare arguments and include directories, at most an include switch alone at the end. -/
inductive FromCommand : FlagList → Prop
  | nil : FromCommand []
  | lone {switch : String} (h : switch ∈ includeSwitches) : FromCommand [.bare switch]
  | dir {switch dir : String} {flags : FlagList} (hswitch : switch ∈ includeSwitches)
      (hdir : Path.IsCanonical ⟨dir⟩) (h : FromCommand flags) : FromCommand (⟨switch, dir⟩ :: flags)
  | bare {arg : String} {flags : FlagList} (harg : arg ∉ includeSwitches) (h : FromCommand flags) :
      FromCommand (.bare arg :: flags)

theorem Leaves.fromCommand {file directory : Path} (habsolute : directory.isAbsolute = true)
    {args : List String} {flags : FlagList} (h : Leaves file directory args flags) :
    FromCommand flags := by
  induction h with
  | nil | loneOutput => exact .nil
  | dropped _ _ _ ih | output _ ih => exact ih
  | lone _ hswitch => exact .lone hswitch
  | dir _ hswitch _ ih => exact ih.dir hswitch (Path.absolutize_isCanonical habsolute _)
  | joined _ _ hjoined _ ih =>
    exact ih.dir (joined?_switch_mem hjoined) (Path.absolutize_isCanonical habsolute _)
  | other _ hswitch _ _ ih => exact ih.bare hswitch

theorem tokens_dir {switch dir : String} (hswitch : switch ∈ includeSwitches)
    (hdir : Path.IsCanonical ⟨dir⟩) (flags : FlagList) :
    FlagList.tokens (⟨switch, dir⟩ :: flags) = switch :: dir :: FlagList.tokens flags := by
  rw [FlagList.tokens, List.flatMap_cons, tokens_of_valueSwitch
    (mem_valueSwitches_of_include hswitch) (ne_empty_of_isCanonical hdir)]
  rfl

theorem tokens_bare_cons (arg : String) (flags : FlagList) :
    FlagList.tokens (.bare arg :: flags) = arg :: FlagList.tokens flags := by
  rw [FlagList.tokens, List.flatMap_cons, Flag.tokens_bare]
  rfl

theorem mem_of_mem_cons_switch {switch before : String} {dir value : Option String}
    {rest : List Item} (hswitch : switch ∈ includeSwitches) (hother : before ∉ includeSwitches)
    (h : Item.switch switch dir ∈ Item.switch before value :: rest) :
    Item.switch switch dir ∈ rest := by
  rcases List.mem_cons.1 h with heq | h
  · cases heq
    exact absurd hswitch hother
  · exact h

/-- An include directory that is read is one of the flags. Read behind a bare switch, the flags are
out of step for one token; a directory that stands alone then is no switch, and they are in step
again. -/
theorem FromCommand.mem_of_mem_items {flags : FlagList} (h : FromCommand flags) {switch dir : String}
    (hswitch : switch ∈ includeSwitches) :
    (.switch switch (some dir) ∈ items flags.tokens → ⟨switch, dir⟩ ∈ flags) ∧
    ∀ before, before ∈ valueSwitches → before ∉ includeSwitches →
      .switch switch (some dir) ∈ items (before :: flags.tokens) → ⟨switch, dir⟩ ∈ flags := by
  induction h with
  | nil =>
    refine ⟨fun hread => by simp at hread, fun before hbefore _ hread => ?_⟩
    rw [FlagList.tokens_nil, items_lone hbefore] at hread
    simp at hread
  | @lone alone halone =>
    have htokens : FlagList.tokens [.bare alone] = [alone] := tokens_bare_cons alone []
    rw [htokens]
    constructor
    · intro hread
      rw [items_lone (mem_valueSwitches_of_include halone)] at hread
      simp at hread
    · intro before hbefore hother hread
      rw [items_switch hbefore] at hread
      exact absurd (mem_of_mem_cons_switch hswitch hother hread) List.not_mem_nil
  | @dir name value flags hname hvalue _ ih =>
    rw [tokens_dir hname hvalue]
    constructor
    · intro hread
      rw [items_switch (mem_valueSwitches_of_include hname)] at hread
      rcases List.mem_cons.1 hread with heq | hread
      · cases heq
        exact List.mem_cons_self
      · exact List.mem_cons_of_mem _ (ih.1 hread)
    · intro before hbefore hother hread
      rw [items_switch hbefore, items_token (not_valueSwitch_of_isCanonical hvalue)] at hread
      have hread := mem_of_mem_cons_switch hswitch hother hread
      exact List.mem_cons_of_mem _ (ih.1 (by simpa using hread))
  | @bare arg flags harg _ ih =>
    rw [tokens_bare_cons]
    constructor
    · intro hread
      by_cases hvalue : arg ∈ valueSwitches
      · exact List.mem_cons_of_mem _ (ih.2 arg hvalue harg hread)
      · rw [items_token hvalue] at hread
        exact List.mem_cons_of_mem _ (ih.1 (by simpa using hread))
    · intro before hbefore hother hread
      rw [items_switch hbefore] at hread
      exact List.mem_cons_of_mem _ (ih.1 (mem_of_mem_cons_switch hswitch hother hread))

theorem FromCommand.eq_concat_bare {flags : FlagList} (h : FromCommand flags) {front : List String}
    {name : String} (hname : name ∈ valueSwitches) (htokens : flags.tokens = front ++ [name]) :
    ∃ before : FlagList, flags = before ++ [.bare name] ∧ before.tokens = front := by
  induction h generalizing front with
  | nil => simp at htokens
  | @lone switch hswitch =>
    have hboth : [] ++ [switch] = front ++ [name] := htokens
    obtain ⟨rfl, hlast⟩ := List.append_inj' hboth rfl
    exact ⟨[], by rw [List.head_eq_of_cons_eq hlast]; rfl, rfl⟩
  | @dir switch dir flags hswitch hdir _ ih =>
    rw [tokens_dir hswitch hdir] at htokens
    rcases front with _ | ⟨first, _ | ⟨second, front⟩⟩
    · simp at htokens
    · have hsame : dir = name := by simp at htokens; exact htokens.2.1
      exact absurd (hsame ▸ hname) (not_valueSwitch_of_isCanonical hdir)
    · obtain ⟨rfl, rfl, hrest⟩ : switch = first ∧ dir = second ∧
          FlagList.tokens flags = front ++ [name] := by simpa using htokens
      obtain ⟨before, rfl, rfl⟩ := ih hrest
      exact ⟨⟨switch, dir⟩ :: before, rfl, tokens_dir hswitch hdir before⟩
  | @bare arg flags harg hflags ih =>
    rw [tokens_bare_cons] at htokens
    cases front with
    | nil =>
      obtain ⟨rfl, hrest⟩ : arg = name ∧ FlagList.tokens flags = [] := by simpa using htokens
      have hnil : flags = [] := by
        cases flags with
        | nil => rfl
        | cons f flags => simp [FlagList.tokens, Flag.tokens_ne_nil] at hrest
      exact ⟨[], by rw [hnil]; rfl, rfl⟩
    | cons first front =>
      obtain ⟨rfl, hrest⟩ : arg = first ∧ FlagList.tokens flags = front ++ [name] := by
        simpa using htokens
      obtain ⟨before, rfl, rfl⟩ := ih hrest
      exact ⟨.bare arg :: before, rfl, tokens_bare_cons arg before⟩

end Database

open Database

/-- The flags of a recorded command and those of build information are read one after the other
unless a switch without its value ends the first and the second has any. Each include directory that
is read then comes from one of the two, and without such a switch every include switch has one.
Otherwise the last flag of the first is that switch alone, and it takes the first token of the
second. -/
theorem sections_readings (argv : List String) (file : Path) {directory : Path}
    (h : directory.isAbsolute = true) (content : String) (base : Path) :
    let database := flagsOfCommand argv file directory
    let buildInfo := BuildInfo.parse content base
    (items (database.tokens ++ buildInfo.tokens) = items database.tokens ++ items buildInfo.tokens ↔
      buildInfo.tokens = [] ∨ ¬ EndsOpen database.tokens) ∧
    (buildInfo.tokens = [] ∨ ¬ EndsOpen database.tokens →
      ∀ switch ∈ includeSwitches, ∀ dir,
        .switch switch (some dir) ∈ items (database.tokens ++ buildInfo.tokens) →
          ⟨switch, dir⟩ ∈ database ∨ ⟨switch, dir⟩ ∈ buildInfo) ∧
    (¬ EndsOpen database.tokens → ∀ switch,
      .switch switch none ∉ items (database.tokens ++ buildInfo.tokens)) ∧
    (EndsOpen database.tokens → ∃ (front : FlagList) (switch : String),
      database = front ++ [.bare switch] ∧ switch ∈ valueSwitches ∧
      ∀ token rest, buildInfo.tokens = token :: rest →
        items (database.tokens ++ buildInfo.tokens) =
          items front.tokens ++ .switch switch (some token) :: items rest) := by
  intro database buildInfo
  have hcommand : FromCommand database :=
    (flagsOfArgs_leaves file directory (argsOfCommand argv)).fromCommand h
  have hbuildInfo : items buildInfo.tokens =
      buildInfo.map fun f => .switch f.switch (some f.value) :=
    items_tokens_of_valued (flagsFrom_valued base .other _)
  have hboth := items_append_iff database.tokens buildInfo.tokens
  refine ⟨hboth, ?_, ?_, ?_⟩
  · intro hapart switch hswitch dir hread
    rw [hboth.2 hapart, hbuildInfo] at hread
    rcases List.mem_append.1 hread with hread | hread
    · exact .inl ((hcommand.mem_of_mem_items hswitch).1 hread)
    · obtain ⟨f, hf, heq⟩ := List.mem_map.1 hread
      cases heq
      exact .inr hf
  · intro hopen switch hread
    rw [hboth.2 (.inr hopen), hbuildInfo] at hread
    rcases List.mem_append.1 hread with hread | hread
    · exact hopen (endsOpen_of_mem hread)
    · obtain ⟨f, -, heq⟩ := List.mem_map.1 hread
      cases heq
  · intro hopen
    obtain ⟨front, switch, htokens, hswitch, -, hmore⟩ := exists_of_endsOpen hopen
    obtain ⟨before, hbefore, rfl⟩ := hcommand.eq_concat_bare hswitch htokens
    refine ⟨before, switch, hbefore, hswitch, fun token rest hrest => ?_⟩
    rw [hrest]
    exact hmore token rest

theorem sections_readings_inStep :
    (Path.mk "/b").isAbsolute = true ∧
      items ((Database.flagsOfCommand ["cc", "-D", "-I", "inc", "-iquote", "q"] ⟨"/b/a.c"⟩
        ⟨"/b"⟩).tokens ++ (BuildInfo.parse "[includedirs]\nlib" ⟨"/b"⟩).tokens) =
      [.switch "-D" (some "-I"), .token "/b/inc", .switch "-iquote" (some "/b/q"),
        .switch "-isystem" (some "/b/lib")] := by
  have hdirectory : (Path.mk "/b").isAbsolute = true := by decide
  have htokens : (Database.flagsOfCommand ["cc", "-D", "-I", "inc", "-iquote", "q"] ⟨"/b/a.c"⟩
      ⟨"/b"⟩).tokens = ["-D", "-I", "/b/inc", "-iquote", "/b/q"] := by decide +kernel
  have hbuildInfo : (BuildInfo.parse "[includedirs]\nlib" ⟨"/b"⟩).tokens =
      ["-isystem", "/b/lib"] := by decide +kernel
  have hclosed : ¬ EndsOpen ["-D", "-I", "/b/inc", "-iquote", "/b/q"] := by
    simp [EndsOpen, items, valueSwitches]
  have hread := (sections_readings ["cc", "-D", "-I", "inc", "-iquote", "q"] ⟨"/b/a.c"⟩ hdirectory
    "[includedirs]\nlib" ⟨"/b"⟩).1.2 (.inr (by rw [htokens]; exact hclosed))
  refine ⟨hdirectory, hread.trans ?_⟩
  rw [htokens, hbuildInfo]
  decide +kernel

theorem sections_readings_overlap :
    ¬ ∀ (argv : List String) (file directory : Path) (content : String) (base : Path),
      directory.isAbsolute = true →
      items ((Database.flagsOfCommand argv file directory).tokens ++
        (BuildInfo.parse content base).tokens) =
      items (Database.flagsOfCommand argv file directory).tokens ++
        items (BuildInfo.parse content base).tokens := by
  intro h
  have hequal := h ["cc", "-I"] ⟨"/a.c"⟩ ⟨"/"⟩ "[includedirs]\n/lib" ⟨"/"⟩ (by decide)
  revert hequal
  decide +kernel

end CompileFlags
