set_option autoImplicit false

namespace CompileFlags.Text

def splitOn (sep : Char) : List Char → List (List Char)
  | [] => [[]]
  | c :: r =>
    if c = sep then [] :: splitOn sep r
    else match splitOn sep r with
      | [] => [[c]]
      | piece :: pieces => (c :: piece) :: pieces

theorem splitOn_ne_nil (sep : Char) (s : List Char) : splitOn sep s ≠ [] := by
  cases s with
  | nil => simp [splitOn]
  | cons c r =>
    rw [splitOn]
    split
    · simp
    · split <;> simp

theorem splitOn_append (sep : Char) (s t : List Char) :
    splitOn sep (s ++ sep :: t) = splitOn sep s ++ splitOn sep t := by
  induction s with
  | nil => simp [splitOn]
  | cons c r ih =>
    by_cases h : c = sep
    · simp [splitOn, h, ih]
    · simp only [List.cons_append, splitOn, h, ite_false, ih]
      cases hr : splitOn sep r with
      | nil => exact absurd hr (splitOn_ne_nil sep r)
      | cons piece pieces => simp

theorem splitOn_eq (sep : Char) (s : List Char) : splitOn sep s = s.splitOn sep := by
  induction s with
  | nil => rfl
  | cons c r ih =>
    rw [splitOn, List.splitOn_cons_eq_if_modifyHead]
    by_cases h : c = sep
    · simp [h, ih]
    · cases hr : splitOn sep r with
      | nil => exact absurd hr (splitOn_ne_nil sep r)
      | cons piece pieces => simp [h, ← ih, hr]

theorem splitOn_intercalate {sep : Char} {joint : String} (hjoint : joint.toList = [sep])
    {texts : List String} (hne : texts ≠ []) (h : ∀ text ∈ texts, sep ∉ text.toList) :
    splitOn sep (joint.intercalate texts).toList = texts.map String.toList := by
  rw [String.toList_intercalate, hjoint, splitOn_eq]
  apply List.splitOn_intercalate
  · intro chars hchars
    obtain ⟨text, htext, rfl⟩ := List.mem_map.1 hchars
    exact h text htext
  · simpa using hne

theorem not_mem_of_mem_splitOn {sep : Char} {s piece : List Char} (h : piece ∈ splitOn sep s) :
    sep ∉ piece := by
  induction s generalizing piece with
  | nil =>
    have hp : piece = [] := by simpa [splitOn] using h
    simp [hp]
  | cons c r ih =>
    rw [splitOn] at h
    by_cases hc : c = sep
    · rw [if_pos hc] at h
      rcases List.mem_cons.1 h with rfl | hr
      · simp
      · exact ih hr
    · rw [if_neg hc] at h
      cases hr : splitOn sep r with
      | nil => exact absurd hr (splitOn_ne_nil sep r)
      | cons first others =>
        rw [hr] at h ih
        rcases List.mem_cons.1 h with rfl | ho
        · have hf : sep ∉ first := ih (by simp)
          simp [hf, Ne.symm hc]
        · exact ih (List.mem_cons_of_mem first ho)

def dropReturn (line : List Char) : List Char :=
  if line.getLast? = some '\r' then line.dropLast else line

/-- The lines of a text. What follows the last line feed is a line of its own unless it is empty. -/
def lines (s : List Char) : List (List Char) :=
  let pieces := splitOn '\n' s
  let last := match pieces.getLast? with
    | some [] => []
    | some piece => [piece]
    | none => []
  pieces.dropLast.map dropReturn ++ last

end CompileFlags.Text
