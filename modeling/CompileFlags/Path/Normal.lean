import CompileFlags.Path.Basic

set_option autoImplicit false

/-!
# Normal form of paths

Normalization reads the steps of a path with a stack: a name is pushed, `..` takes the top away.
With nothing to take away, `..` stays at the root of an absolute path and is kept by a relative
one. The stack is then written with single slashes, or as `.` when it is empty. Nothing is looked
up, so a path need not exist.
-/

namespace CompileFlags.Path

/-- The stack after one more step, top first. -/
def walk (absolute : Bool) (stack : List Step) : Step → List Step
  | .name s => .name s :: stack
  | .up => match stack with
    | _ :: below => below
    | [] => if absolute then [] else [.up]

def fold (absolute : Bool) (steps : List Step) : List Step :=
  (steps.foldl (walk absolute) []).reverse

def render (absolute : Bool) (steps : List Step) : Path :=
  let body := "/".intercalate (steps.map Step.text)
  if absolute then ⟨"/" ++ body⟩
  else if steps.isEmpty then ⟨"."⟩
  else ⟨body⟩

def normalize (p : Path) : Path :=
  render p.isAbsolute (fold p.isAbsolute p.steps)

def absolutize (base p : Path) : Path :=
  (base.join p).normalize

@[simp] theorem fold_nil (absolute : Bool) : fold absolute [] = [] := rfl

theorem absolutize_of_isAbsolute {base p : Path} (h : p.isAbsolute = true) :
    base.absolutize p = p.normalize := by
  simp [absolutize, h]

theorem up_not_mem_foldl_walk (steps stack : List Step) (h : Step.up ∉ stack) :
    Step.up ∉ steps.foldl (walk true) stack := by
  induction steps generalizing stack with
  | nil => exact h
  | cons s steps ih =>
    apply ih
    cases s with
    | name n => simpa [walk] using h
    | up => cases stack with
      | nil => simp [walk]
      | cons t below => exact fun hm => h (List.mem_cons_of_mem t hm)

theorem up_not_mem_fold (steps : List Step) : Step.up ∉ fold true steps := by
  simpa [fold] using up_not_mem_foldl_walk steps [] (by simp)

end CompileFlags.Path
