import CompileFlags.Path.Normal

set_option autoImplicit false

namespace CompileFlags

structure Flag where
  switch : String
  value : String
deriving DecidableEq, Inhabited

abbrev FlagList := List Flag

namespace Flag

def bare (switch : String) : Flag := ⟨switch, ""⟩

def ofInclude (dir : Path) : Flag := ⟨"-I", dir.text⟩

def ofSystemInclude (dir : Path) : Flag := ⟨"-isystem", dir.text⟩

def ofDefine (definition : String) : Flag := ⟨"-D", definition⟩

/-- The tokens of a flag. A switch that ends in an equals sign is joined with its value. -/
def tokens (f : Flag) : List String :=
  if f.value = "" then [f.switch]
  else if f.switch.toList.getLast? = some '=' then [f.switch ++ f.value]
  else [f.switch, f.value]

def text (f : Flag) : String :=
  " ".intercalate f.tokens

@[simp] theorem tokens_bare (switch : String) : (bare switch).tokens = [switch] := by
  simp [tokens, bare]

theorem tokens_ne_nil (f : Flag) : f.tokens ≠ [] := by
  unfold tokens
  split
  · simp
  · split <;> simp

end Flag

namespace FlagList

def tokens (flags : FlagList) : List String :=
  flags.flatMap Flag.tokens

@[simp] theorem tokens_nil : tokens [] = [] := rfl

@[simp] theorem tokens_append (a b : FlagList) : tokens (a ++ b) = tokens a ++ tokens b := by
  simp [tokens]

end FlagList

end CompileFlags
