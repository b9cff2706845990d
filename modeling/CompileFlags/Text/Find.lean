set_option autoImplicit false

namespace CompileFlags.Text

def afterMark? : List Char → List Char → Option (List Char)
  | [], s => some s
  | _ :: _, [] => none
  | m :: mark, c :: s => if m = c then afterMark? mark s else none

def cut? (mark : List Char) : List Char → Option (List Char × List Char)
  | [] => (afterMark? mark []).map fun rest => ([], rest)
  | c :: s =>
    match afterMark? mark (c :: s) with
    | some rest => some ([], rest)
    | none => (cut? mark s).map fun found => (c :: found.1, found.2)

def contains (mark s : List Char) : Bool :=
  (cut? mark s).isSome

theorem afterMark?_eq_some_iff {mark s rest : List Char} :
    afterMark? mark s = some rest ↔ s = mark ++ rest := by
  induction mark generalizing s with
  | nil => simp [afterMark?]
  | cons m mark ih =>
    cases s with
    | nil => simp [afterMark?]
    | cons c s =>
      by_cases h : m = c
      · simp [afterMark?, h, ih]
      · simp [afterMark?, h, Ne.symm h]

/-- A cut takes nothing away but the marker. -/
theorem append_of_cut? {mark s before after : List Char} (h : cut? mark s = some (before, after)) :
    s = before ++ mark ++ after := by
  induction s generalizing before with
  | nil =>
    simp only [cut?, Option.map_eq_some_iff, Prod.mk.injEq] at h
    obtain ⟨rest, hr, rfl, rfl⟩ := h
    simpa using afterMark?_eq_some_iff.1 hr
  | cons c s ih =>
    rw [cut?] at h
    split at h
    · next rest hr =>
      simp only [Option.some.injEq, Prod.mk.injEq] at h
      obtain ⟨rfl, rfl⟩ := h
      simpa using afterMark?_eq_some_iff.1 hr
    · simp only [Option.map_eq_some_iff, Prod.mk.injEq] at h
      obtain ⟨⟨b, a⟩, hc, rfl, rfl⟩ := h
      simpa using ih hc

end CompileFlags.Text
