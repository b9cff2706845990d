import CompileFlags.Proofs.Database.Arguments
import CompileFlags.Proofs.Path.Canonical

set_option autoImplicit false

namespace CompileFlags.Database

def AbsoluteIncludes (flags : FlagList) : Prop :=
  ∀ f ∈ flags, f.switch ∈ includeSwitches → Path.IsCanonical ⟨f.value⟩

def Unjoined (flags : FlagList) : Prop :=
  ∀ f ∈ flags, ∀ switch ∈ includeSwitches, ∀ rest, f.switch = switch ++ rest → rest = ""

/-- Nothing, or an include switch alone. -/
inductive LoneSwitch : FlagList → Prop
  | none : LoneSwitch []
  | some {switch : String} (h : switch ∈ includeSwitches) : LoneSwitch [.bare switch]

theorem includeSwitches_not_nested :
    ∀ a ∈ includeSwitches, ∀ b ∈ includeSwitches, b.toList.isPrefixOf a.toList = true → b = a := by
  decide

theorem isPrefixOf_append (switch rest : String) :
    switch.toList.isPrefixOf (switch ++ rest).toList = true := by
  rw [String.toList_append, List.isPrefixOf_iff_prefix]
  exact List.prefix_append _ _

theorem rest_eq_of_mem {arg switch rest : String} (harg : arg ∈ includeSwitches)
    (hswitch : switch ∈ includeSwitches) (h : arg = switch ++ rest) : rest = "" := by
  have hprefix : switch.toList.isPrefixOf arg.toList = true := by
    rw [h]
    exact isPrefixOf_append switch rest
  have hsame : switch = arg := includeSwitches_not_nested arg harg switch hswitch hprefix
  have hlist : arg.toList = arg.toList ++ rest.toList := by
    conv => lhs; rw [h, hsame, String.toList_append]
  have hnil : rest.toList = [] := List.self_eq_append_right.1 hlist
  exact String.toList_eq_nil_iff.1 hnil

theorem after?_append (switch rest : String) : after? switch (switch ++ rest) = some rest := by
  rw [after?, if_pos (isPrefixOf_append switch rest)]
  simp

theorem joined?_eq_some {arg switch dir : String} (h : joined? arg = some (switch, dir)) :
    switch ∈ includeSwitches ∧ after? switch arg = some dir ∧ dir ≠ "" := by
  obtain ⟨found, hmem, hfound⟩ := List.exists_of_findSome?_eq_some h
  have hlisted : ∀ s ∈ ["-isystem", "-idirafter", "-iquote", "-I"], s ∈ includeSwitches := by
    decide
  cases hafter : after? found arg with
  | none => simp [hafter] at hfound
  | some rest =>
    by_cases hrest : rest = ""
    · simp [hafter, hrest] at hfound
    · obtain ⟨rfl, rfl⟩ : found = switch ∧ rest = dir := by
        simpa [hafter, hrest] using hfound
      exact ⟨hlisted found hmem, hafter, hrest⟩

theorem joined?_switch_mem {arg switch dir : String} (h : joined? arg = some (switch, dir)) :
    switch ∈ includeSwitches :=
  (joined?_eq_some h).1

theorem rest_eq_of_joined?_eq_none {arg switch rest : String} (h : joined? arg = none)
    (hswitch : switch ∈ includeSwitches) (harg : arg = switch ++ rest) : rest = "" := by
  have hlisted : ∀ s ∈ includeSwitches, s ∈ ["-isystem", "-idirafter", "-iquote", "-I"] := by
    decide
  have hnone := List.findSome?_eq_none_iff.1 h switch (hlisted switch hswitch)
  rw [harg, after?_append] at hnone
  simpa using hnone

theorem absoluteIncludes_cons {f : Flag} {flags : FlagList}
    (hf : f.switch ∈ includeSwitches → Path.IsCanonical ⟨f.value⟩) (h : AbsoluteIncludes flags) :
    AbsoluteIncludes (f :: flags) := by
  intro g hg
  rcases List.mem_cons.1 hg with rfl | hg
  · exact hf
  · exact h g hg

theorem absoluteIncludes_map {α : Type} {items : List α} (switch : String) (dir : α → Path)
    (h : ∀ a ∈ items, (dir a).IsCanonical) :
    AbsoluteIncludes (items.map fun a => ⟨switch, (dir a).text⟩) := by
  intro f hf _
  obtain ⟨a, ha, rfl⟩ := List.mem_map.1 hf
  exact h a ha

theorem unjoined_cons_switch {switch value : String} {flags : FlagList}
    (hswitch : switch ∈ includeSwitches) (h : Unjoined flags) :
    Unjoined (⟨switch, value⟩ :: flags) := by
  intro g hg other hother rest hrest
  rcases List.mem_cons.1 hg with rfl | hg
  · exact rest_eq_of_mem hswitch hother hrest
  · exact h g hg other hother rest hrest

theorem unjoined_cons_bare {arg : String} {flags : FlagList} (harg : joined? arg = none)
    (h : Unjoined flags) : Unjoined (.bare arg :: flags) := by
  intro g hg switch hswitch rest hrest
  rcases List.mem_cons.1 hg with rfl | hg
  · exact rest_eq_of_joined?_eq_none harg hswitch hrest
  · exact h g hg switch hswitch rest hrest

/-- Canonical directories, then at most the include switch that ends the arguments. -/
def SoundFrom (args : List String) (flags : FlagList) : Prop :=
  Unjoined flags ∧ ∃ front lone, flags = front ++ lone ∧ AbsoluteIncludes front ∧
    LoneSwitch lone ∧ ∀ f ∈ lone, args.getLast? = some f.switch

theorem SoundFrom.skip {args : List String} {flags : FlagList} (h : SoundFrom args flags)
    (more : List String) : SoundFrom (more ++ args) flags := by
  obtain ⟨hunjoined, front, lone, hflags, hfront, hlone, hlast⟩ := h
  refine ⟨hunjoined, front, lone, hflags, hfront, hlone, fun f hf => ?_⟩
  rw [List.getLast?_append, hlast f hf]
  rfl

theorem SoundFrom.cons {args : List String} {f : Flag} {flags : FlagList}
    (hunjoined : Unjoined (f :: flags))
    (hf : f.switch ∈ includeSwitches → Path.IsCanonical ⟨f.value⟩) (h : SoundFrom args flags) :
    SoundFrom args (f :: flags) := by
  obtain ⟨-, front, lone, rfl, hfront, hlone, hlast⟩ := h
  exact ⟨hunjoined, f :: front, lone, rfl, absoluteIncludes_cons hf hfront, hlone, hlast⟩

theorem soundFrom_nil (args : List String) : SoundFrom args [] :=
  ⟨by simp [Unjoined], [], [], rfl, by simp [AbsoluteIncludes], .none, by simp⟩

/-- Along the rules: what an argument adds is sound, and the end of the arguments is kept. -/
theorem Leaves.sound {file directory : Path} (habsolute : directory.isAbsolute = true)
    {args : List String} {flags : FlagList} (h : Leaves file directory args flags) :
    SoundFrom args flags := by
  induction h with
  | nil => exact soundFrom_nil []
  | @dropped arg rest flags ho harg h ih => exact ih.skip [arg]
  | @output out rest flags h ih => exact ih.skip ["-o", out]
  | loneOutput => exact soundFrom_nil ["-o"]
  | @lone switch hkept hswitch =>
    refine ⟨unjoined_cons_switch hswitch (by simp [Unjoined]), [], [.bare switch], rfl,
      by simp [AbsoluteIncludes], .some hswitch, ?_⟩
    simp [Flag.bare]
  | @dir switch dir rest flags hkept hswitch h ih =>
    have hrest := ih.skip [switch, dir]
    exact hrest.cons (unjoined_cons_switch hswitch hrest.1) fun _ =>
      Path.absolutize_isCanonical habsolute ⟨dir⟩
  | @joined arg switch dir rest flags hkept hswitch hjoined h ih =>
    have hrest := ih.skip [arg]
    exact hrest.cons (unjoined_cons_switch (joined?_switch_mem hjoined) hrest.1) fun _ =>
      Path.absolutize_isCanonical habsolute ⟨dir⟩
  | @other arg rest flags hkept hswitch hjoined h ih =>
    have hrest := ih.skip [arg]
    exact hrest.cons (unjoined_cons_bare hjoined hrest.1) fun hmem => absurd hmem hswitch

theorem flagsOfCommand_sound (argv : List String) (file : Path) {directory : Path}
    (h : directory.isAbsolute = true) : SoundFrom argv (flagsOfCommand argv file directory) := by
  have hsuffix : argsOfCommand argv <:+ argv :=
    (List.dropWhile_suffix _).trans (List.drop_suffix 1 argv)
  obtain ⟨more, hmore⟩ := hsuffix
  have hsound := ((flagsOfArgs_leaves file directory (argsOfCommand argv)).sound h).skip more
  rw [hmore] at hsound
  exact hsound

end CompileFlags.Database
