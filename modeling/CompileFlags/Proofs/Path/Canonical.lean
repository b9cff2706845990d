import CompileFlags.Path.Normal

set_option autoImplicit false

namespace CompileFlags.Path

def IsName (s : String) : Prop :=
  s ≠ "" ∧ s ≠ "." ∧ s ≠ ".." ∧ '/' ∉ s.toList

instance (s : String) : Decidable (IsName s) :=
  inferInstanceAs (Decidable (_ ∧ _ ∧ _ ∧ _))

def ofNames (names : List String) : Path :=
  ⟨"/" ++ "/".intercalate names⟩

def IsCanonical (p : Path) : Prop :=
  ∃ names : List String, (∀ n ∈ names, IsName n) ∧ p = ofNames names

theorem pieces_ofText_append (s t : String) :
    (Path.mk (s ++ "/" ++ t)).pieces = (Path.mk s).pieces ++ (Path.mk t).pieces := by
  have h : (s ++ "/" ++ t).toList = s.toList ++ '/' :: t.toList := by simp
  simp only [pieces, h, Text.splitOn_append, List.map_append]

theorem pieces_empty : (Path.mk "").pieces = [""] := rfl

theorem pieces_intercalate {names : List String} (hne : names ≠ [])
    (h : ∀ n ∈ names, '/' ∉ n.toList) : (Path.mk ("/".intercalate names)).pieces = names := by
  rw [pieces, Text.splitOn_intercalate rfl hne h]
  simp [Function.comp_def]

theorem pieces_ofNames {names : List String} (h : ∀ n ∈ names, IsName n) :
    (ofNames names).pieces = "" :: if names = [] then [""] else names := by
  have hs : ofNames names = ⟨"" ++ "/" ++ "/".intercalate names⟩ := by simp [ofNames]
  rw [hs, pieces_ofText_append, pieces_empty]
  by_cases hne : names = []
  · simp [hne, pieces_empty]
  · rw [pieces_intercalate hne fun n hn => (h n hn).2.2.2]
    simp [hne]

theorem ofPiece?_of_isName {n : String} (h : IsName n) : Step.ofPiece? n = some (.name n) := by
  simp [Step.ofPiece?, h.1, h.2.1, h.2.2.1]

theorem isName_of_name_mem_steps {p : Path} {n : String} (h : Step.name n ∈ p.steps) :
    IsName n := by
  obtain ⟨piece, hpiece, hstep⟩ := List.mem_filterMap.1 h
  obtain ⟨s, hs, rfl⟩ := List.mem_map.1 hpiece
  have hslash := Text.not_mem_of_mem_splitOn hs
  unfold Step.ofPiece? at hstep
  split at hstep
  · contradiction
  · next hidle =>
    split at hstep
    · simp at hstep
    · next hup =>
      have hn : String.ofList s = n := by simpa using hstep
      rw [not_or, hn] at hidle
      rw [hn] at hup
      refine ⟨hidle.1, hidle.2, hup, ?_⟩
      rw [← hn]
      simpa using hslash

theorem isName_of_fileName? {p : Path} {n : String} (h : p.fileName? = some n) : IsName n := by
  unfold fileName? at h
  split at h
  · next s hlast =>
    cases h
    exact isName_of_name_mem_steps (List.mem_of_getLast? hlast)
  · cases h

theorem steps_ofNames {names : List String} (h : ∀ n ∈ names, IsName n) :
    (ofNames names).steps = names.map .name := by
  have hsteps : names.filterMap Step.ofPiece? = names.map .name := by
    induction names with
    | nil => rfl
    | cons n names ih =>
      have hn : Step.ofPiece? n = some (.name n) := ofPiece?_of_isName (h n (by simp))
      rw [List.filterMap_cons_some hn, ih fun m hm => h m (List.mem_cons_of_mem n hm)]
      rfl
  rw [steps, pieces_ofNames h]
  by_cases hne : names = []
  · simp [hne, Step.ofPiece?]
  · simpa [hne, Step.ofPiece?] using hsteps

theorem isEmpty_of_isAbsolute {p : Path} (h : p.isAbsolute = true) : p.isEmpty = false := by
  apply Bool.eq_false_iff.2
  intro hempty
  have htext : p.text = "" := by simpa [isEmpty] using hempty
  simp [isAbsolute, htext] at h

theorem isAbsolute_ofNames (names : List String) : (ofNames names).isAbsolute = true := by
  simp [isAbsolute, ofNames]

theorem mem_foldl_walk {absolute : Bool} {steps stack : List Step} {s : Step}
    (h : s ∈ steps.foldl (walk absolute) stack) : s ∈ stack ∨ s ∈ steps := by
  induction steps generalizing stack with
  | nil => exact Or.inl h
  | cons t steps ih =>
    rcases ih h with hs | hs
    · cases t with
      | name n =>
        rcases List.mem_cons.1 hs with rfl | hs
        · exact Or.inr (by simp)
        · exact Or.inl hs
      | up => cases stack with
        | nil =>
          cases absolute with
          | true => simp [walk] at hs
          | false =>
            have hup : s = .up := by simpa [walk] using hs
            exact Or.inr (by simp [hup])
        | cons top below => exact Or.inl (List.mem_cons_of_mem top hs)
    · exact Or.inr (List.mem_cons_of_mem t hs)

theorem mem_of_mem_fold {absolute : Bool} {steps : List Step} {s : Step}
    (h : s ∈ fold absolute steps) : s ∈ steps := by
  have hs : s ∈ steps.foldl (walk absolute) [] := by simpa [fold] using h
  simpa using mem_foldl_walk hs

theorem fold_eq_names (p : Path) : ∃ names : List String,
    (∀ n ∈ names, IsName n) ∧ fold true p.steps = names.map .name := by
  have hall : ∀ steps : List Step, Step.up ∉ steps → (∀ n, .name n ∈ steps → IsName n) →
      ∃ names : List String, (∀ n ∈ names, IsName n) ∧ steps = names.map .name := by
    intro steps hup hname
    induction steps with
    | nil => exact ⟨[], by simp, rfl⟩
    | cons s steps ih =>
      obtain ⟨names, hn, rfl⟩ := ih (fun hm => hup (List.mem_cons_of_mem s hm))
        fun n hm => hname n (List.mem_cons_of_mem s hm)
      cases s with
      | up => exact absurd (by simp) hup
      | name m => exact ⟨m :: names, by simpa using ⟨hname m (by simp), hn⟩, rfl⟩
  exact hall _ (up_not_mem_fold p.steps) fun n hn => isName_of_name_mem_steps (mem_of_mem_fold hn)

theorem foldl_walk_names (absolute : Bool) (names : List String) (stack : List Step) :
    (names.map Step.name).foldl (walk absolute) stack =
      (names.map Step.name).reverse ++ stack := by
  induction names generalizing stack with
  | nil => rfl
  | cons n names ih =>
    change (names.map Step.name).foldl (walk absolute) (.name n :: stack) = _
    rw [ih]
    simp

theorem fold_names (absolute : Bool) (names : List String) :
    fold absolute (names.map .name) = names.map .name := by
  simp [fold, foldl_walk_names]

theorem fold_concat_name (absolute : Bool) (steps : List Step) (n : String) :
    fold absolute (steps ++ [.name n]) = fold absolute steps ++ [.name n] := by
  simp [fold, walk]

theorem render_names (names : List String) : render true (names.map .name) = ofNames names := by
  have h : (names.map Step.name).map Step.text = names := by
    simp [Function.comp_def, Step.text]
  simp [render, ofNames, h]

theorem normalize_isCanonical {p : Path} (h : p.isAbsolute = true) : IsCanonical p.normalize := by
  obtain ⟨names, hn, hfold⟩ := fold_eq_names p
  refine ⟨names, hn, ?_⟩
  rw [normalize, h, hfold, render_names]

theorem text_ne_empty_of_mem_steps {p : Path} {s : Step} (h : s ∈ p.steps) : s.text ≠ "" := by
  cases s with
  | up => decide
  | name n => exact (isName_of_name_mem_steps h).1

theorem normalize_text_ne_empty (p : Path) : p.normalize.text ≠ "" := by
  unfold normalize render
  dsimp only
  split
  · simp
  · split
    · decide
    · next hsteps =>
      obtain ⟨s, steps, hs⟩ := List.exists_cons_of_ne_nil (by simpa using hsteps)
      have hfirst : s.text ≠ "" :=
        text_ne_empty_of_mem_steps (mem_of_mem_fold (hs ▸ List.mem_cons_self))
      rw [hs]
      cases steps with
      | nil => simpa using hfirst
      | cons t steps => simp

theorem IsCanonical.isAbsolute {p : Path} (h : IsCanonical p) : p.isAbsolute = true := by
  obtain ⟨names, -, rfl⟩ := h
  exact isAbsolute_ofNames names

theorem normalize_ofNames {names : List String} (h : ∀ n ∈ names, IsName n) :
    (ofNames names).normalize = ofNames names := by
  rw [normalize, isAbsolute_ofNames, steps_ofNames h, fold_names, render_names]

theorem IsCanonical.normalize_eq {p : Path} (h : IsCanonical p) : p.normalize = p := by
  obtain ⟨names, hn, rfl⟩ := h
  exact normalize_ofNames hn

theorem toList_isPrefix_child (p : Path) (name : String) :
    p.text.toList <+: (p.child name).text.toList := by
  unfold child
  split <;> simp

theorem isAbsolute_child {p : Path} (h : p.isAbsolute = true) (name : String) :
    (p.child name).isAbsolute = true := by
  have hhead : p.text.toList.head? = some '/' := by simpa [Path.isAbsolute] using h
  unfold child
  split <;> simp [Path.isAbsolute, hhead]

theorem isAbsolute_foldl_child {p : Path} (h : p.isAbsolute = true) (names : List String) :
    (names.foldl child p).isAbsolute = true := by
  induction names generalizing p with
  | nil => exact h
  | cons name names ih => exact ih (isAbsolute_child h name)

theorem isAbsolute_join {base : Path} (h : base.isAbsolute = true) (p : Path) :
    (base.join p).isAbsolute = true := by
  unfold join
  split
  · assumption
  · exact isAbsolute_child h p.text

theorem absolutize_isCanonical {base : Path} (h : base.isAbsolute = true) (p : Path) :
    IsCanonical (base.absolutize p) :=
  normalize_isCanonical (isAbsolute_join h p)

theorem IsCanonical.absolutize_eq {p : Path} (h : IsCanonical p) (base : Path) :
    base.absolutize p = p := by
  rw [absolutize_of_isAbsolute h.isAbsolute, h.normalize_eq]

theorem absolutize_absolutize {base : Path} (h : base.isAbsolute = true) (p : Path) :
    base.absolutize (base.absolutize p) = base.absolutize p :=
  (absolutize_isCanonical h p).absolutize_eq base

theorem steps_ofText_append (s t : String) :
    (Path.mk (s ++ "/" ++ t)).steps = (Path.mk s).steps ++ (Path.mk t).steps := by
  rw [steps, pieces_ofText_append, List.filterMap_append]
  rfl

/-- Appending a text to a path appends its pieces, but for an empty piece between them. -/
theorem pieces_child (p : Path) (name : String) :
    ∃ front, (p.child name).pieces = front ++ (Path.mk name).pieces ∧
      ∀ {α : Type} (f : String → Option α), f "" = none → front.filterMap f = p.pieces.filterMap f := by
  obtain ⟨text⟩ := p
  unfold child
  split
  · next h =>
    rcases h with hempty | hslash
    · have ht : text = "" := by simpa [isEmpty] using hempty
      subst ht
      refine ⟨[], by rw [String.empty_append, List.nil_append], fun f hf => ?_⟩
      simp [pieces_empty, hf]
    · obtain ⟨front, hfront⟩ := List.getLast?_eq_some_iff.1 hslash
      have ht : text = String.ofList front ++ "/" := by
        apply String.toList_injective
        simpa using hfront
      subst ht
      refine ⟨_, pieces_ofText_append _ name, fun f hf => ?_⟩
      have hpieces := pieces_ofText_append (String.ofList front) ""
      rw [String.append_empty] at hpieces
      simp [hpieces, pieces_empty, hf]
  · exact ⟨_, pieces_ofText_append text name, fun _ _ => rfl⟩

theorem steps_child (p : Path) (name : String) :
    (p.child name).steps = p.steps ++ (Path.mk name).steps := by
  obtain ⟨front, hpieces, hfront⟩ := pieces_child p name
  rw [steps, hpieces, List.filterMap_append, hfront Step.ofPiece? rfl]
  rfl

theorem pieces_of_isName {n : String} (h : IsName n) : (Path.mk n).pieces = [n] := by
  simpa using pieces_intercalate (List.cons_ne_nil n []) (by simpa using h.2.2.2)

theorem steps_of_isName {n : String} (h : IsName n) : (Path.mk n).steps = [.name n] := by
  simp [steps, pieces_of_isName h, ofPiece?_of_isName h]

theorem fileName?_normalize_child {p : Path} (h : p.isAbsolute = true) {n : String}
    (hn : IsName n) : (p.child n).normalize.fileName? = some n := by
  obtain ⟨names, hnames, hfold⟩ := fold_eq_names p
  have hall : ∀ m ∈ names ++ [n], IsName m := by
    intro m hm
    rcases List.mem_append.1 hm with hm | hm
    · exact hnames m hm
    · simpa [List.mem_singleton.1 hm] using hn
  have hnormal : (p.child n).normalize = ofNames (names ++ [n]) := by
    rw [normalize, isAbsolute_child h, steps_child, steps_of_isName hn, fold_concat_name, hfold,
      ← render_names]
    simp
  rw [hnormal, fileName?, steps_ofNames hall]
  simp

end CompileFlags.Path
