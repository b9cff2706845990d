import CompileFlags.Text.Blank
import CompileFlags.Text.Lines

set_option autoImplicit false

namespace CompileFlags.Text

theorem trimChars_dropReturn (line : List Char) :
    trimChars (dropReturn line) = trimChars line := by
  unfold dropReturn
  split
  · next h =>
    obtain ⟨front, rfl⟩ := List.getLast?_eq_some_iff.1 h
    rw [List.dropLast_concat, trimChars_concat_of_isBlank (by decide)]
  · rfl

theorem exists_trimmed_lines_append (s : List Char) :
    ∃ last : List (List Char), (∀ line ∈ last, line = []) ∧
      (splitOn '\n' s).map trimChars = (lines s).map trimChars ++ last := by
  obtain ⟨front, piece, hsplit⟩ :=
    (List.eq_nil_or_concat (splitOn '\n' s)).resolve_left (splitOn_ne_nil '\n' s)
  have hfront : (front.map dropReturn).map trimChars = front.map trimChars := by
    simp [trimChars_dropReturn]
  rw [lines, hsplit, List.concat_eq_append]
  cases piece with
  | nil => exact ⟨[[]], by simp, by simp [hfront, trimChars_nil]⟩
  | cons c piece => exact ⟨[], by simp, by simp [hfront]⟩

end CompileFlags.Text
