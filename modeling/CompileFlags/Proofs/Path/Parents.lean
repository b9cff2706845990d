import Mathlib.Data.List.Infix
import CompileFlags.Proofs.Path.Canonical

set_option autoImplicit false

namespace CompileFlags.Path

variable {names : List String} {name : String}

theorem isName_concat (h : ∀ n ∈ names, IsName n) (hname : IsName name) :
    ∀ n ∈ names ++ [name], IsName n := by
  intro n hn
  rcases List.mem_append.1 hn with hn | hn
  · exact h n hn
  · simpa [List.mem_singleton.1 hn] using hname

theorem ofNames_concat (hne : names ≠ []) (name : String) :
    (ofNames (names ++ [name])).text = (ofNames names).text ++ "/" ++ name := by
  have hbody := String.intercalate_append_of_ne_nil (s := "/") hne (List.cons_ne_nil name [])
  rw [String.intercalate_singleton] at hbody
  simp only [ofNames, hbody, String.append_assoc]

theorem getLast?_ofNames (hne : names ≠ []) (h : ∀ n ∈ names, IsName n) :
    (ofNames names).text.toList.getLast? ≠ some '/' := by
  obtain ⟨front, last, rfl⟩ := (List.eq_nil_or_concat names).resolve_left hne
  have hlast : IsName last := h last (by simp)
  have htext : ∃ before, (ofNames (front ++ [last])).text = before ++ last := by
    by_cases hfront : front = []
    · exact ⟨"/", by simp [hfront, ofNames]⟩
    · exact ⟨_, ofNames_concat hfront last⟩
  obtain ⟨before, htext⟩ := htext
  intro hslash
  have hchars : last.toList ≠ [] := fun hnil => hlast.1 (String.toList_eq_nil_iff.1 hnil)
  rw [List.concat_eq_append, htext, String.toList_append,
    List.getLast?_append_of_ne_nil _ hchars] at hslash
  exact hlast.2.2.2 (List.mem_of_getLast? hslash)

theorem child_ofNames (h : ∀ n ∈ names, IsName n) (name : String) :
    (ofNames names).child name = ofNames (names ++ [name]) := by
  by_cases hne : names = []
  · subst hne
    simp [child, ofNames]
  · have hempty : (ofNames names).isEmpty = false :=
      isEmpty_of_isAbsolute (isAbsolute_ofNames names)
    rw [child, if_neg (by simp [hempty, getLast?_ofNames hne h]), ← ofNames_concat hne]

theorem trimPieces_names (first : String) (h : ∀ n ∈ names, IsName n) :
    trimPieces (first :: names) = first :: names := by
  rcases List.eq_nil_or_concat names with rfl | ⟨front, last, rfl⟩
  · rfl
  · have hlast : IsName last := h last (by simp)
    simp [trimPieces, hlast.1, hlast.2.1]

theorem trimPieces_pieces_ofNames (h : ∀ n ∈ names, IsName n) :
    trimPieces (ofNames names).pieces = "" :: names := by
  rw [pieces_ofNames h]
  split
  · next hne =>
    rw [hne]
    rfl
  · exact trimPieces_names "" h

theorem parent?_root : (ofNames []).parent? = none := by
  decide

theorem parent?_concat (h : ∀ n ∈ names, IsName n) (hname : IsName name) :
    (ofNames (names ++ [name])).parent? = some (ofNames names) := by
  rw [parent?, trimPieces_pieces_ofNames (isName_concat h hname)]
  cases names with
  | nil => rfl
  | cons first rest =>
    have hkept : trimPieces ("" :: (first :: (rest ++ [name])).dropLast) = "" :: first :: rest := by
      have hlast : (first :: (rest ++ [name])).dropLast = first :: rest :=
        @List.dropLast_concat _ (first :: rest) name
      rw [hlast]
      exact trimPieces_names "" h
    simp only [List.cons_append, hkept]
    simp [ofNames]

theorem isCanonical_of_parent? {p q : Path} (hp : p.IsCanonical) (hq : p.parent? = some q) :
    q.IsCanonical := by
  obtain ⟨names, hnames, rfl⟩ := hp
  rcases List.eq_nil_or_concat names with rfl | ⟨front, last, rfl⟩
  · rw [parent?_root] at hq
    cases hq
  · have hfront : ∀ n ∈ front, IsName n := fun n hn => hnames n (by simp [hn])
    rw [List.concat_eq_append, parent?_concat hfront (hnames last (by simp))] at hq
    exact ⟨front, hfront, (Option.some.inj hq).symm⟩

theorem length_le_length_text (h : ∀ n ∈ names, IsName n) :
    names.length ≤ (ofNames names).text.length := by
  induction names using List.reverseRecOn with
  | nil => simp
  | append_singleton names last ih =>
    have hnames : ∀ n ∈ names, IsName n := fun n hn => h n (by simp [hn])
    have hslash : "/".length = 1 := rfl
    rw [List.length_append, List.length_singleton]
    by_cases hne : names = []
    · simp [hne, ofNames, hslash]
    · rw [ofNames_concat hne, String.length_append, String.length_append]
      have hlength := ih hnames
      omega

theorem ancestors_go_ofNames (h : ∀ n ∈ names, IsName n) {steps : Nat}
    (hsteps : names.length ≤ steps) :
    ancestors.go (ofNames names) steps = (names.inits.map ofNames).reverse := by
  induction names using List.reverseRecOn generalizing steps with
  | nil =>
    cases steps with
    | zero => rfl
    | succ steps =>
      rw [ancestors.go, parent?_root]
      rfl
  | append_singleton names last ih =>
    have hnames : ∀ n ∈ names, IsName n := fun n hn => h n (by simp [hn])
    obtain ⟨steps, rfl⟩ := Nat.exists_eq_add_of_lt (show 0 < steps by simp at hsteps; omega)
    rw [Nat.zero_add, ancestors.go, parent?_concat hnames (h last (by simp))]
    dsimp only
    rw [ih hnames (by simp at hsteps; omega), List.inits_append]
    simp

theorem ancestors_ofNames (h : ∀ n ∈ names, IsName n) :
    (ofNames names).ancestors = (names.inits.map ofNames).reverse :=
  ancestors_go_ofNames h (length_le_length_text h)

theorem ancestors_root : (ofNames []).ancestors = [ofNames []] :=
  ancestors_ofNames (by simp)

theorem ancestors_concat (h : ∀ n ∈ names, IsName n) (hname : IsName name) :
    (ofNames (names ++ [name])).ancestors = ofNames (names ++ [name]) :: (ofNames names).ancestors := by
  rw [ancestors_ofNames (isName_concat h hname), ancestors_ofNames h, List.inits_append]
  simp

end CompileFlags.Path
