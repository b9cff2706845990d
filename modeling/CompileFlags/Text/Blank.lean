set_option autoImplicit false

namespace CompileFlags.Text

def isBlank (c : Char) : Bool :=
  let n := c.toNat
  (0x09 ≤ n && n ≤ 0x0d) || n == 0x20 || n == 0x85 || n == 0xa0 || n == 0x1680 ||
    (0x2000 ≤ n && n ≤ 0x200a) || n == 0x2028 || n == 0x2029 || n == 0x202f || n == 0x205f ||
    n == 0x3000

def trimChars (s : List Char) : List Char :=
  ((s.dropWhile isBlank).reverse.dropWhile isBlank).reverse

def trim (s : String) : String :=
  String.ofList (trimChars s.toList)

theorem trimChars_nil : trimChars [] = [] := rfl

theorem trimChars_concat_of_isBlank {c : Char} (h : isBlank c = true) (s : List Char) :
    trimChars (s ++ [c]) = trimChars s := by
  rw [trimChars, trimChars, List.dropWhile_append]
  split
  · next hempty => simp [h, List.isEmpty_iff.1 hempty]
  · simp [h]

end CompileFlags.Text
