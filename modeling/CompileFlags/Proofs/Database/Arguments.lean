import CompileFlags.Database.Recorded

set_option autoImplicit false

namespace CompileFlags.Database

/-- An argument that is read for itself and not for the output or as the input. -/
structure IsKept (file directory : Path) (arg : String) : Prop where
  notCompile : arg ≠ "-c"
  notOutput : arg ≠ "-o"
  notJoinedOutput : isJoinedOutput arg = false
  notInput : isInput file directory arg = false

def IsDropped (file directory : Path) (arg : String) : Prop :=
  arg = "-c" ∨ isJoinedOutput arg = true ∨ isInput file directory arg = true

inductive Leaves (file directory : Path) : List String → FlagList → Prop
  | nil : Leaves file directory [] []
  | dropped {arg : String} {rest : List String} {flags : FlagList} (ho : arg ≠ "-o")
      (harg : IsDropped file directory arg) (h : Leaves file directory rest flags) :
      Leaves file directory (arg :: rest) flags
  | output {out : String} {rest : List String} {flags : FlagList}
      (h : Leaves file directory rest flags) : Leaves file directory ("-o" :: out :: rest) flags
  | loneOutput : Leaves file directory ["-o"] []
  | lone {switch : String} (hkept : IsKept file directory switch)
      (hswitch : switch ∈ includeSwitches) : Leaves file directory [switch] [.bare switch]
  | dir {switch dir : String} {rest : List String} {flags : FlagList}
      (hkept : IsKept file directory switch) (hswitch : switch ∈ includeSwitches)
      (h : Leaves file directory rest flags) :
      Leaves file directory (switch :: dir :: rest)
        (⟨switch, (directory.absolutize ⟨dir⟩).text⟩ :: flags)
  | joined {arg switch dir : String} {rest : List String} {flags : FlagList}
      (hkept : IsKept file directory arg) (hswitch : arg ∉ includeSwitches)
      (hjoined : joined? arg = some (switch, dir)) (h : Leaves file directory rest flags) :
      Leaves file directory (arg :: rest) (⟨switch, (directory.absolutize ⟨dir⟩).text⟩ :: flags)
  | other {arg : String} {rest : List String} {flags : FlagList}
      (hkept : IsKept file directory arg) (hswitch : arg ∉ includeSwitches)
      (hjoined : joined? arg = none) (h : Leaves file directory rest flags) :
      Leaves file directory (arg :: rest) (.bare arg :: flags)

theorem flagsOfArgs_leaves (file directory : Path) (args : List String) :
    Leaves file directory args (flagsOfArgs file directory args) := by
  induction args using flagsOfArgs.induct file directory with
  | case1 => exact .nil
  | case2 rest ih =>
    unfold flagsOfArgs
    rw [if_pos rfl]
    exact ih.dropped (by decide) (.inl rfl)
  | case3 hc =>
    unfold flagsOfArgs
    rw [if_neg hc, if_pos rfl]
    exact .loneOutput
  | case4 out rest hc ih =>
    unfold flagsOfArgs
    rw [if_neg hc, if_pos rfl]
    exact ih.output
  | case5 arg rest hc ho hout ih =>
    unfold flagsOfArgs
    rw [if_neg hc, if_neg ho, if_pos hout]
    exact ih.dropped ho (.inr (.inl hout))
  | case6 arg rest hc ho hout hinput ih =>
    unfold flagsOfArgs
    rw [if_neg hc, if_neg ho, if_neg hout, if_pos hinput]
    exact ih.dropped ho (.inr (.inr hinput))
  | case7 arg hc ho hout hinput hswitch =>
    unfold flagsOfArgs
    rw [if_neg hc, if_neg ho, if_neg hout, if_neg hinput, if_pos hswitch]
    exact .lone ⟨hc, ho, by simpa using hout, by simpa using hinput⟩ hswitch
  | case8 arg hc ho hout hinput hswitch dir rest ih =>
    unfold flagsOfArgs
    rw [if_neg hc, if_neg ho, if_neg hout, if_neg hinput, if_pos hswitch]
    exact ih.dir ⟨hc, ho, by simpa using hout, by simpa using hinput⟩ hswitch
  | case9 arg rest hc ho hout hinput hswitch switch dir hjoined ih =>
    unfold flagsOfArgs
    rw [if_neg hc, if_neg ho, if_neg hout, if_neg hinput, if_neg hswitch, hjoined]
    exact ih.joined ⟨hc, ho, by simpa using hout, by simpa using hinput⟩ hswitch hjoined
  | case10 arg rest hc ho hout hinput hswitch hjoined ih =>
    unfold flagsOfArgs
    rw [if_neg hc, if_neg ho, if_neg hout, if_neg hinput, if_neg hswitch, hjoined]
    exact ih.other ⟨hc, ho, by simpa using hout, by simpa using hinput⟩ hswitch hjoined

end CompileFlags.Database
