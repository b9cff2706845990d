import CompileFlags.Proofs.Path.Canonical
import Mathlib.Data.List.Flatten

set_option autoImplicit false

namespace CompileFlags.Path

def enter (names : List String) (piece : String) : List String :=
  if piece = "" ∨ piece = "." then names
  else if piece = ".." then names.dropLast
  else names ++ [piece]

/-- The names on the way to where an absolute path leads. -/
def evaluate (p : Path) : List String :=
  p.pieces.foldl enter []

theorem enter_idle (names : List String) {piece : String} (h : piece = "" ∨ piece = ".") :
    enter names piece = names := by
  simp [enter, h]

theorem enter_up (names : List String) : enter names ".." = names.dropLast := rfl

theorem enter_isName (names : List String) {piece : String} (h : IsName piece) :
    enter names piece = names ++ [piece] := by
  simp [enter, h.1, h.2.1, h.2.2.1]

theorem enter_sublist (names : List String) (piece : String) :
    (enter names piece).Sublist (names ++ [piece]) := by
  unfold enter
  split
  · exact List.sublist_append_left names [piece]
  · split
    · exact (List.dropLast_sublist names).trans (List.sublist_append_left names [piece])
    · exact List.Sublist.refl _

theorem idle_or_up_or_isName {piece : String} (h : '/' ∉ piece.toList) :
    (piece = "" ∨ piece = ".") ∨ piece = ".." ∨ IsName piece := by
  by_cases hidle : piece = "" ∨ piece = "."
  · exact Or.inl hidle
  · rw [not_or] at hidle
    by_cases hup : piece = ".."
    · exact Or.inr (Or.inl hup)
    · exact Or.inr (Or.inr ⟨hidle.1, hidle.2, hup, h⟩)

theorem slash_not_mem_of_mem_pieces {p : Path} {piece : String} (h : piece ∈ p.pieces) :
    '/' ∉ piece.toList := by
  obtain ⟨chars, hchars, rfl⟩ := List.mem_map.1 h
  simpa using Text.not_mem_of_mem_splitOn hchars

theorem foldl_enter_sublist (names pieces : List String) :
    (pieces.foldl enter names).Sublist (names ++ pieces) := by
  induction pieces generalizing names with
  | nil => simp
  | cons piece pieces ih =>
    have hrest := ih (enter names piece)
    have hfirst := (enter_sublist names piece).append_right pieces
    simpa using hrest.trans hfirst

theorem foldl_walk_pieces (names : List String) {pieces : List String}
    (h : ∀ piece ∈ pieces, '/' ∉ piece.toList) :
    (pieces.filterMap Step.ofPiece?).foldl (walk true) (names.map Step.name).reverse =
      ((pieces.foldl enter names).map Step.name).reverse := by
  induction pieces generalizing names with
  | nil => rfl
  | cons piece pieces ih =>
    have hrest := fun names => ih names fun other hother => h other (List.mem_cons_of_mem _ hother)
    rw [List.foldl_cons]
    rcases idle_or_up_or_isName (h piece List.mem_cons_self) with hidle | rfl | hname
    · have hstep : Step.ofPiece? piece = none := by simp [Step.ofPiece?, hidle]
      rw [List.filterMap_cons_none hstep, enter_idle names hidle, hrest]
    · have hstep : Step.ofPiece? ".." = some .up := by simp [Step.ofPiece?]
      have hwalk : walk true (names.map Step.name).reverse .up =
          (names.dropLast.map Step.name).reverse := by
        rcases List.eq_nil_or_concat names with rfl | ⟨front, last, rfl⟩
        · rfl
        · simp [walk]
      rw [List.filterMap_cons_some hstep, List.foldl_cons, hwalk, enter_up, hrest]
    · have hwalk : walk true (names.map Step.name).reverse (.name piece) =
          ((names ++ [piece]).map Step.name).reverse := by
        simp [walk]
      rw [List.filterMap_cons_some (ofPiece?_of_isName hname), List.foldl_cons, hwalk,
        enter_isName names hname, hrest]

theorem foldl_walk_steps (p : Path) :
    p.steps.foldl (walk true) [] = (p.evaluate.map Step.name).reverse := by
  have hwalk := foldl_walk_pieces [] fun piece => @slash_not_mem_of_mem_pieces p piece
  simpa [steps, evaluate] using hwalk

theorem fold_steps (p : Path) : fold true p.steps = p.evaluate.map .name := by
  rw [fold, foldl_walk_steps, List.reverse_reverse]

theorem isName_of_mem_evaluate {p : Path} {n : String} (h : n ∈ p.evaluate) : IsName n := by
  have hstep : Step.name n ∈ fold true p.steps := by
    rw [fold_steps]
    exact List.mem_map_of_mem h
  exact isName_of_name_mem_steps (mem_of_mem_fold hstep)

/-- The normal form of an absolute path spells the names that its evaluation ends with. -/
theorem normalize_eq_ofNames {p : Path} (h : p.isAbsolute = true) :
    p.normalize = ofNames p.evaluate := by
  rw [normalize, h, fold_steps, render_names]

theorem evaluate_congr {p q : Path}
    (h : p.steps.foldl (walk true) [] = q.steps.foldl (walk true) []) :
    p.evaluate = q.evaluate := by
  rw [foldl_walk_steps, foldl_walk_steps, List.reverse_inj] at h
  exact (List.map_inj_right fun _ _ => Step.name.inj).1 h

theorem evaluate_ofNames {names : List String} (h : ∀ n ∈ names, IsName n) :
    (ofNames names).evaluate = names := by
  have hsteps := fold_steps (ofNames names)
  rw [steps_ofNames h, fold_names] at hsteps
  exact (List.map_inj_right fun _ _ => Step.name.inj).1 hsteps.symm

theorem evaluate_normalize {p : Path} (h : p.isAbsolute = true) :
    p.normalize.evaluate = p.evaluate := by
  rw [normalize_eq_ofNames h, evaluate_ofNames fun n => isName_of_mem_evaluate]

/-- With a slash in front as well, each text between slashes has one of its own. -/
theorem slash_intercalate {texts : List (List Char)} (h : texts ≠ []) :
    '/' :: ['/'].intercalate texts = texts.flatMap ('/' :: ·) := by
  induction texts with
  | nil => exact absurd rfl h
  | cons text texts ih =>
    cases texts with
    | nil => simp
    | cons next texts =>
      have hrest := ih (List.cons_ne_nil next texts)
      rw [List.intercalate_cons_cons, List.flatMap_cons, ← hrest]
      simp

theorem toList_normalize_sublist {p : Path} (h : p.isAbsolute = true) :
    p.normalize.text.toList.Sublist p.text.toList := by
  have hhead : p.text.toList.head? = some '/' := by simpa [isAbsolute] using h
  obtain ⟨rest, htext⟩ := List.head?_eq_some_iff.1 hhead
  have hpieces : p.pieces = "" :: (Text.splitOn '/' rest).map String.ofList := by
    simp [pieces, htext, Text.splitOn]
  have hnames : (p.evaluate.map String.toList).Sublist (Text.splitOn '/' rest) := by
    have hsublist : p.evaluate.Sublist ((Text.splitOn '/' rest).map String.ofList) := by
      rw [evaluate, hpieces, List.foldl_cons]
      exact foldl_enter_sublist [] _
    simpa [Function.comp_def] using hsublist.map String.toList
  have hrest : '/' :: rest = (Text.splitOn '/' rest).flatMap ('/' :: ·) := by
    rw [← slash_intercalate (Text.splitOn_ne_nil '/' rest), Text.splitOn_eq,
      List.intercalate_splitOn]
  have hnormal : (ofNames p.evaluate).text.toList =
      '/' :: ['/'].intercalate (p.evaluate.map String.toList) := by
    simp [ofNames, String.toList_intercalate]
  rw [normalize_eq_ofNames h, hnormal, htext]
  by_cases hne : p.evaluate.map String.toList = []
  · simp [hne]
  · rw [slash_intercalate hne, hrest]
    exact hnames.flatMap _

end CompileFlags.Path
