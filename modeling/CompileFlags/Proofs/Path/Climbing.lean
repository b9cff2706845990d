import CompileFlags.Proofs.Path.Composition
import Mathlib.Data.List.Basic

set_option autoImplicit false

/-!
# Paths that climb

A relative path climbs out of some folders above its start, then enters names. Its normal form keeps
one `..` when it climbs an odd number of times and none otherwise, because a `..` takes away the
step before it even when that is a kept `..`. Read from a base, the normal form still leads to the
same place when the path climbs at most once.
-/

namespace CompileFlags.Path

/-- How often relative steps climbed above their start, and the names entered since, last first. -/
abbrev Reach := Nat × List String

def stride : Reach → Step → Reach
  | (climbed, names), .name n => (climbed, n :: names)
  | (climbed, _ :: below), .up => (climbed, below)
  | (climbed, []), .up => (climbed + 1, [])

def reach (p : Path) : Reach :=
  p.steps.foldl stride (0, [])

def climbs (p : Path) : Nat := p.reach.1

def entered (p : Path) : List String := p.reach.2.reverse

def ofPieces (pieces : List String) : Path :=
  if pieces = [] then ⟨"."⟩ else ⟨"/".intercalate pieces⟩

/-- A stack whose lower part only depends on how often was climbed keeps that form. -/
theorem walk_stride {absolute : Bool} {below : Nat → List Step}
    (h : ∀ k, walk absolute (below k) .up = below (k + 1)) (r : Reach) (s : Step) :
    walk absolute (r.2.map .name ++ below r.1) s =
      (stride r s).2.map .name ++ below (stride r s).1 := by
  obtain ⟨climbed, names⟩ := r
  cases s with
  | name n => rfl
  | up => cases names with
    | nil => exact h climbed
    | cons n names => rfl

theorem foldl_walk_stride {absolute : Bool} {below : Nat → List Step}
    (h : ∀ k, walk absolute (below k) .up = below (k + 1)) (steps : List Step) (r : Reach) :
    steps.foldl (walk absolute) (r.2.map .name ++ below r.1) =
      (steps.foldl stride r).2.map .name ++ below (steps.foldl stride r).1 := by
  induction steps generalizing r with
  | nil => rfl
  | cons s steps ih => rw [List.foldl_cons, List.foldl_cons, walk_stride h, ih]

/-- At a relative start nothing is left to take away but a `..` that was kept before. -/
theorem walk_kept (k : Nat) :
    walk false (List.replicate (k % 2) .up) .up = List.replicate ((k + 1) % 2) .up := by
  rcases Nat.mod_two_eq_zero_or_one k with hk | hk
  · have hnext : (k + 1) % 2 = 1 := by omega
    rw [hk, hnext]
    rfl
  · have hnext : (k + 1) % 2 = 0 := by omega
    rw [hk, hnext]
    rfl

theorem walk_drop (stack : List Step) (k : Nat) :
    walk true (stack.drop k) .up = stack.drop (k + 1) := by
  rw [← List.tail_drop]
  cases stack.drop k <;> rfl

theorem fold_relative (p : Path) :
    fold false p.steps = List.replicate (p.climbs % 2) .up ++ p.entered.map .name := by
  have hwalk := foldl_walk_stride walk_kept p.steps (0, [])
  simp only [List.map_nil, List.nil_append, Nat.zero_mod, List.replicate_zero] at hwalk
  simp [fold, hwalk, climbs, entered, reach]

/-- Read from an absolute base, a relative path takes a name of the base away for each time that it
climbs. -/
theorem absolutize_relative {b p : Path} (hb : b.isAbsolute = true) (hp : p.isAbsolute = false) :
    b.absolutize p =
      ofNames (b.evaluate.take (b.evaluate.length - p.climbs) ++ p.entered) := by
  have hwalk := foldl_walk_stride (walk_drop (b.evaluate.map Step.name).reverse) p.steps (0, [])
  have hfold : fold true (b.join p).steps =
      (b.evaluate.take (b.evaluate.length - p.climbs) ++ p.entered).map .name := by
    simp only [List.map_nil, List.nil_append, List.drop_zero] at hwalk
    rw [fold, steps_join b hp, List.foldl_append, foldl_walk_steps, hwalk]
    simp [climbs, entered, reach, List.drop_reverse, List.map_take]
  rw [absolutize, normalize, isAbsolute_join hb p, hfold, render_names]

theorem isName_of_mem_entered {p : Path} {n : String} (h : n ∈ p.entered) : IsName n := by
  have hstep : Step.name n ∈ fold false p.steps := by
    rw [fold_relative]
    exact List.mem_append_right _ (List.mem_map_of_mem h)
  exact isName_of_name_mem_steps (mem_of_mem_fold hstep)

theorem ofPiece?_text {s : Step} (h : ∀ n, s = .name n → IsName n) :
    Step.ofPiece? s.text = some s := by
  cases s with
  | up => simp [Step.ofPiece?, Step.text]
  | name n => exact ofPiece?_of_isName (h n rfl)

theorem slash_not_mem_text {s : Step} (h : ∀ n, s = .name n → IsName n) :
    '/' ∉ s.text.toList := by
  cases s with
  | up => decide
  | name n => exact (h n rfl).2.2.2

variable {steps : List Step}

theorem pieces_texts (hne : steps ≠ []) (h : ∀ n, .name n ∈ steps → IsName n) :
    (Path.mk ("/".intercalate (steps.map Step.text))).pieces = steps.map Step.text := by
  apply pieces_intercalate (by simpa using hne)
  intro text htext
  obtain ⟨s, hs, rfl⟩ := List.mem_map.1 htext
  exact slash_not_mem_text fun n hn => h n (hn ▸ hs)

theorem steps_texts (h : ∀ n, .name n ∈ steps → IsName n) :
    (Path.mk ("/".intercalate (steps.map Step.text))).steps = steps := by
  by_cases hne : steps = []
  · subst hne
    rfl
  · rw [Path.steps, pieces_texts hne h, List.filterMap_map]
    have hall : ∀ s ∈ steps, (Step.ofPiece? ∘ Step.text) s = some s := fun s hs =>
      ofPiece?_text fun n hn => h n (hn ▸ hs)
    rw [List.filterMap_congr hall, List.filterMap_some]

theorem steps_render (absolute : Bool) (h : ∀ n, .name n ∈ steps → IsName n) :
    (render absolute steps).steps = steps := by
  cases absolute with
  | true =>
    have hroot := steps_ofText_append "" ("/".intercalate (steps.map Step.text))
    rw [String.empty_append, steps_texts h] at hroot
    exact hroot
  | false => cases steps with
    | nil => rfl
    | cons s steps => exact steps_texts h

theorem head?_pieces_of_isAbsolute {p : Path} (h : p.isAbsolute = true) :
    p.pieces.head? = some "" := by
  have hhead : p.text.toList.head? = some '/' := by simpa [isAbsolute] using h
  obtain ⟨rest, htext⟩ := List.head?_eq_some_iff.1 hhead
  simp [pieces, htext, Text.splitOn]

theorem isAbsolute_render (absolute : Bool) (h : ∀ n, .name n ∈ steps → IsName n) :
    (render absolute steps).isAbsolute = absolute := by
  cases absolute with
  | true => simp [render, isAbsolute]
  | false => cases steps with
    | nil => rfl
    | cons s steps =>
      have hpieces := pieces_texts (List.cons_ne_nil s steps) h
      apply Bool.eq_false_iff.2
      intro habsolute
      have hempty : s.text = "" := by
        have hhead := head?_pieces_of_isAbsolute habsolute
        change (Path.mk ("/".intercalate ((s :: steps).map Step.text))).pieces.head? = _ at hhead
        rw [hpieces] at hhead
        exact Option.some.inj hhead
      have hpiece := ofPiece?_text fun n (hn : s = .name n) => h n (hn ▸ List.mem_cons_self)
      simp [hempty, Step.ofPiece?] at hpiece

theorem isName_of_name_mem_fold {p : Path} {absolute : Bool} (n : String)
    (h : .name n ∈ fold absolute p.steps) : IsName n :=
  isName_of_name_mem_steps (mem_of_mem_fold h)

theorem isAbsolute_normalize (p : Path) : p.normalize.isAbsolute = p.isAbsolute :=
  isAbsolute_render _ isName_of_name_mem_fold

theorem steps_normalize (p : Path) : p.normalize.steps = fold p.isAbsolute p.steps :=
  steps_render _ isName_of_name_mem_fold

theorem reach_normalize {p : Path} (hp : p.isAbsolute = false) :
    p.normalize.reach = (p.climbs % 2, p.entered.reverse) := by
  have hentered : ∀ (names : List String) (r : Reach),
      (names.map Step.name).foldl stride r = (r.1, names.reverse ++ r.2) := by
    intro names r
    induction names generalizing r with
    | nil => rfl
    | cons n names ih =>
      rw [List.map_cons, List.foldl_cons, ih]
      simp [stride]
  rw [reach, steps_normalize, hp, fold_relative, List.foldl_append, hentered]
  rcases Nat.mod_two_eq_zero_or_one p.climbs with hk | hk <;> simp [hk, stride]

theorem normalize_normalize (p : Path) : p.normalize.normalize = p.normalize := by
  cases hp : p.isAbsolute with
  | true => exact (normalize_isCanonical hp).normalize_eq
  | false =>
    have hreach := reach_normalize hp
    have hclimbs : p.normalize.climbs = p.climbs % 2 := by rw [climbs, hreach]
    have hentered : p.normalize.entered = p.entered := by
      rw [entered, hreach, List.reverse_reverse]
    have hfold : fold false p.normalize.steps = fold false p.steps := by
      rw [fold_relative, fold_relative, hclimbs, hentered, Nat.mod_mod]
    rw [normalize, isAbsolute_normalize, hp, hfold, normalize, hp]

theorem normalize_relative {p : Path} (hp : p.isAbsolute = false) :
    p.normalize = ofPieces (List.replicate (p.climbs % 2) ".." ++ p.entered) := by
  have htexts : (fold false p.steps).map Step.text =
      List.replicate (p.climbs % 2) ".." ++ p.entered := by
    simp [fold_relative, Step.text, Function.comp_def]
  have hempty : fold false p.steps = [] ↔
      List.replicate (p.climbs % 2) ".." ++ p.entered = [] := by
    rw [← htexts, List.map_eq_nil_iff]
  simp [normalize, hp, render, htexts, ofPieces, hempty, List.isEmpty_iff]

theorem ofNames_inj {names others : List String} (h : ∀ n ∈ names, IsName n)
    (hothers : ∀ n ∈ others, IsName n) : ofNames names = ofNames others ↔ names = others := by
  constructor
  · intro heq
    rw [← evaluate_ofNames h, heq, evaluate_ofNames hothers]
  · rintro rfl
    rfl

theorem take_eq_take_of_climbs {names : List String} {k : Nat} :
    names.take (names.length - k % 2) = names.take (names.length - k) ↔
      k ≤ 1 ∨ names.length ≤ k % 2 := by
  rw [List.take_eq_take_iff]
  omega

/-- Read from an absolute base, a path and its normal form lead to the same place if the path is
absolute or climbs at most once, or if already what the normal form climbs reaches the root, and
only then. A relative normal form has one `..` in front if the path climbs an odd number of times,
else none; the names entered follow. -/
theorem absolutize_normalize_iff {b : Path} (hb : b.isAbsolute = true) (p : Path) :
    (b.absolutize p.normalize = b.absolutize p ↔
      p.isAbsolute = true ∨ p.climbs ≤ 1 ∨ b.evaluate.length ≤ p.climbs % 2) ∧
    (p.isAbsolute = false → (∀ n ∈ p.entered, IsName n) ∧
      p.normalize = ofPieces (List.replicate (p.climbs % 2) ".." ++ p.entered)) := by
  refine ⟨?_, fun hp => ⟨fun n => isName_of_mem_entered, normalize_relative hp⟩⟩
  cases hp : p.isAbsolute with
  | true =>
    have hsame : b.absolutize p.normalize = b.absolutize p := by
      rw [absolutize_of_isAbsolute hp, (normalize_isCanonical hp).absolutize_eq]
    simp [hsame]
  | false =>
    have hnormal : p.normalize.isAbsolute = false := by rw [isAbsolute_normalize, hp]
    have hreach := reach_normalize hp
    have hnames : ∀ k, ∀ n ∈ b.evaluate.take k ++ p.entered, IsName n := by
      intro k n hn
      rcases List.mem_append.1 hn with hn | hn
      · exact isName_of_mem_evaluate (List.mem_of_mem_take hn)
      · exact isName_of_mem_entered hn
    rw [absolutize_relative hb hnormal, absolutize_relative hb hp, climbs, entered, hreach,
      List.reverse_reverse, ofNames_inj (hnames _) (hnames _), List.append_left_inj,
      take_eq_take_of_climbs]
    simp

theorem absolutize_normalize_climbingOnce :
    (Path.mk "/a/b").isAbsolute = true ∧ (Path.mk "x/../../y").climbs = 1 ∧
      (Path.mk "/a/b").absolutize (Path.mk "x/../../y").normalize = ⟨"/a/y"⟩ := by
  have hbase : (Path.mk "/a/b").isAbsolute = true := by decide
  have hclimbs : (Path.mk "x/../../y").climbs = 1 := by decide
  have honce : (Path.mk "x/../../y").climbs ≤ 1 := Nat.le_of_eq hclimbs
  have hsame := (absolutize_normalize_iff hbase ⟨"x/../../y"⟩).1.2 (Or.inr (Or.inl honce))
  refine ⟨hbase, hclimbs, ?_⟩
  rw [hsame]
  decide

theorem absolutize_normalize_ne :
    (Path.mk "../..").climbs = 2 ∧ (Path.mk "../..").normalize = ⟨"."⟩ ∧
      (Path.mk "/a/b").absolutize (Path.mk "../..").normalize = ⟨"/a/b"⟩ ∧
      (Path.mk "/a/b").absolutize ⟨"../.."⟩ = ⟨"/"⟩ := by
  refine ⟨?_, ?_, ?_, ?_⟩ <;> decide

end CompileFlags.Path
