import CompileFlags.Disk.World
import CompileFlags.Proofs.Disk.Leads
import CompileFlags.Proofs.Path.Canonical

set_option autoImplicit false

namespace CompileFlags.Disk

theorem isAbsolute_pathOf (place : Place) : (pathOf place).isAbsolute = true :=
  Path.isAbsolute_ofNames place

theorem World.isAbsolute_base (w : World) : w.base.isAbsolute = true := by
  unfold World.base
  split
  · exact isAbsolute_pathOf _
  · rfl

theorem World.isAbsolute_of_currentDir {w : World} {dir : Path} (h : w.currentDir = .ok dir) :
    dir.isAbsolute = true := by
  unfold World.currentDir at h
  split at h
  · cases h
    exact isAbsolute_pathOf _
  · cases h

theorem World.absolute_isCanonical (w : World) (p : Path) : (w.absolute p).IsCanonical :=
  Path.absolutize_isCanonical w.isAbsolute_base p

/-- Names that a file system admits, on a path that it admits. -/
structure Admissible (names : List String) : Prop where
  isName : ∀ n ∈ names, Path.IsName n
  short : ∀ n ∈ names, n.utf8ByteSize ≤ nameLimit
  noNul : '\x00' ∉ (Path.ofNames names).text.toList
  fits : (Path.ofNames names).text.utf8ByteSize ≤ pathLimit

instance (names : List String) : Decidable (Admissible names) :=
  decidable_of_iff ((∀ n ∈ names, Path.IsName n) ∧ (∀ n ∈ names, n.utf8ByteSize ≤ nameLimit) ∧
      '\x00' ∉ (Path.ofNames names).text.toList ∧
      (Path.ofNames names).text.utf8ByteSize ≤ pathLimit)
    ⟨fun ⟨hname, hshort, hnul, hfits⟩ => ⟨hname, hshort, hnul, hfits⟩,
      fun h => ⟨h.isName, h.short, h.noNul, h.fits⟩⟩

theorem hopOfPiece?_of_isName {n : String} (h : Path.IsName n) :
    Hop.ofPiece? n = some (.name n) := by
  simp [Hop.ofPiece?, h.1, h.2.1, h.2.2.1]

theorem hops_ofNames {names : List String} (hne : names ≠ []) (h : ∀ n ∈ names, Path.IsName n) :
    hops (Path.ofNames names) = names.map .name := by
  have hmap : names.filterMap Hop.ofPiece? = names.map .name := by
    clear hne
    induction names with
    | nil => rfl
    | cons n names ih =>
      have hn : Hop.ofPiece? n = some (.name n) := hopOfPiece?_of_isName (h n (by simp))
      rw [List.filterMap_cons_some hn, ih fun m hm => h m (List.mem_cons_of_mem n hm)]
      rfl
  have hlast : ("" :: names).getLast? ≠ some "" := by
    intro hlast
    rw [List.getLast?_cons_of_ne_nil hne] at hlast
    exact (h "" (List.mem_of_getLast? hlast)).1 rfl
  rw [hops, Path.pieces_ofNames h, if_neg hne, if_neg hlast, List.append_nil]
  simpa [Hop.ofPiece?] using hmap

theorem World.place_of_isAbsolute (w : World) (ending : Ending) {p : Path}
    (h : p.isAbsolute = true) (hnul : '\x00' ∉ p.text.toList)
    (hfits : p.text.utf8ByteSize ≤ pathLimit) :
    w.place ending p = placeFrom w.tree ending linkLimit [] (hops p) := by
  have hempty : ¬ p.isEmpty = true := by
    rw [Path.isEmpty_of_isAbsolute h]
    exact Bool.false_ne_true
  rw [World.place, if_neg (by simp [hnul]), if_neg (Nat.not_lt.2 hfits), if_neg hempty, if_pos h]

/-- A relative path that a file system admits is followed from the working folder. -/
theorem World.place_of_relative (w : World) (ending : Ending) {p : Path} {start : Place}
    (hcwd : w.cwd = some start) (h : p.isAbsolute = false) (hempty : p.isEmpty = false)
    (hnul : '\x00' ∉ p.text.toList) (hfits : p.text.utf8ByteSize ≤ pathLimit) :
    w.place ending p = placeFrom w.tree ending linkLimit start (hops p) := by
  rw [World.place, if_neg (by simp [hnul]), if_neg (Nat.not_lt.2 hfits), hempty, h, hcwd]
  rfl

/-- A path leads somewhere only if a file system admits it, from the root or from the working
folder. -/
theorem World.place_cases {w : World} {ending : Ending} {p : Path} {found : Place}
    (h : w.place ending p = .ok found) :
    ('\x00' ∉ p.text.toList ∧ p.text.utf8ByteSize ≤ pathLimit ∧ p.isEmpty = false) ∧
    (p.isAbsolute = true ∧ placeFrom w.tree ending linkLimit [] (hops p) = .ok found ∨
      p.isAbsolute = false ∧ ∃ start, w.cwd = some start ∧
        placeFrom w.tree ending linkLimit start (hops p) = .ok found) := by
  unfold World.place at h
  split at h
  · cases h
  · next hnul =>
    split at h
    · cases h
    · next hlong =>
      split at h
      · cases h
      · next hempty =>
        have hadmits : '\x00' ∉ p.text.toList ∧ p.text.utf8ByteSize ≤ pathLimit ∧
            p.isEmpty = false :=
          ⟨by simpa using hnul, Nat.not_lt.1 hlong, Bool.eq_false_iff.2 hempty⟩
        refine ⟨hadmits, ?_⟩
        split at h
        · next habsolute => exact Or.inl ⟨habsolute, h⟩
        · next hrelative =>
          cases hcwd : w.cwd with
          | none =>
            rw [hcwd] at h
            cases h
          | some start =>
            rw [hcwd] at h
            exact Or.inr ⟨Bool.eq_false_iff.2 hrelative, start, rfl, h⟩

theorem World.place_follow_of_keep {w : World} {p : Path} {found : Place}
    (h : w.place .keep p = .ok found) (hlink : ∀ target, w.tree.at? found ≠ some (.link target)) :
    w.place .follow p = .ok found := by
  obtain ⟨⟨hnul, hfits, hempty⟩, ⟨habsolute, hfrom⟩ | ⟨hrelative, start, hcwd, hfrom⟩⟩ :=
    World.place_cases h
  · rw [w.place_of_isAbsolute .follow habsolute hnul hfits]
    exact ((leads_of_placeFrom hfrom).follow hlink).placeFrom
  · rw [w.place_of_relative .follow hcwd hrelative hempty hnul hfits]
    exact ((leads_of_placeFrom hfrom).follow hlink).placeFrom

theorem place_root (w : World) (ending : Ending) (h : w.tree.isFolder = true) :
    w.place ending (Path.ofNames []) = .ok [] := by
  have hhops : hops (Path.ofNames []) = [.slash] := by decide
  rw [w.place_of_isAbsolute ending (Path.isAbsolute_ofNames []) (by decide) (by decide), hhops]
  exact (Leads.step (Node.at?_nil w.tree) ⟨h, .inr rfl⟩ trivial .done).placeFrom

theorem place_ofNames {w : World} {n : Node} {names : List String} (ending : Ending)
    (hnames : Admissible names) (hne : names ≠ []) (h : w.tree.reach? names = some n)
    (hlink : ∀ target, n ≠ .link target) : w.place ending (Path.ofNames names) = .ok names := by
  rw [w.place_of_isAbsolute ending (Path.isAbsolute_ofNames names) hnames.noNul hnames.fits,
    hops_ofNames hne hnames.isName]
  exact (@leads_names w.tree ending linkLimit [] n names h hlink hnames.short).placeFrom

theorem node_ofNames {w : World} {n : Node} {names : List String} (ending : Ending)
    (hnames : Admissible names) (hne : names ≠ []) (h : w.tree.reach? names = some n)
    (hlink : ∀ target, n ≠ .link target) : w.node ending (Path.ofNames names) = .ok n := by
  rw [World.node, place_ofNames ending hnames hne h hlink]
  simp only [bind, Except.bind, Node.at?_of_reach? h]
  rfl

/-- A path that starts with a name that the root lacks leads nowhere. -/
theorem node_of_missing {w : World} {name : String} {names : Place}
    (hnames : Admissible (name :: names)) (hroot : w.tree.Admits (.name name))
    (hchild : w.tree.child? name = none) :
    w.node .follow (Path.ofNames (name :: names)) = .error .notFound := by
  obtain ⟨hfolder, hopen⟩ := Node.admits_iff.1 hroot
  have hshort : ¬ nameLimit < name.utf8ByteSize :=
    Nat.not_lt.2 (hnames.short name List.mem_cons_self)
  have hplace : w.place .follow (Path.ofNames (name :: names)) = .error .notFound := by
    rw [w.place_of_isAbsolute .follow (Path.isAbsolute_ofNames _) hnames.noNul hnames.fits,
      hops_ofNames (List.cons_ne_nil _ _) hnames.isName, List.map_cons, placeFrom, Node.at?_nil]
    simp only [if_neg hfolder, if_neg hopen, if_neg hshort, hchild, reduceCtorEq, and_false,
      if_false]
  rw [World.node, hplace]
  rfl

theorem World.readBytes_of_node {w : World} {path : Path} {content : List UInt8} {rights : Rights}
    (h : w.node .follow path = .ok (.file content rights)) :
    w.readBytes path = if rights.read then .ok content else .error .denied := by
  rw [World.readBytes, h]
  rfl

theorem readBytes_ofNames {w : World} {names : List String} {content : List UInt8}
    {rights : Rights} (hnames : Admissible names) (hne : names ≠ [])
    (h : w.tree.reach? names = some (.file content rights)) (hread : rights.read = true) :
    w.readBytes (Path.ofNames names) = .ok content := by
  rw [World.readBytes_of_node (node_ofNames .follow hnames hne h (by simp)), if_pos hread]

theorem World.readText_of_unreadable {w : World} {path : Path} {cause : IoFault}
    (h : w.readBytes path = .error cause) : w.readText path = .error cause := by
  simp only [World.readText, h]
  rfl

theorem World.readText_of_bytes {w : World} {path : Path} {bytes : List UInt8}
    (h : w.readBytes path = .ok bytes) : w.readText path =
      match Text.Utf8.decode? bytes with
      | some content => .ok content
      | none => .error .notText := by
  simp only [World.readText, h]
  rfl

theorem World.readText_of_notText {w : World} {path : Path} {bytes : List UInt8}
    (h : w.readBytes path = .ok bytes) (htext : Text.Utf8.decode? bytes = none) :
    w.readText path = .error .notText := by
  rw [World.readText_of_bytes h, htext]

theorem World.readText_of_text {w : World} {path : Path} {bytes : List UInt8} {content : String}
    (h : w.readBytes path = .ok bytes) (htext : Text.Utf8.decode? bytes = some content) :
    w.readText path = .ok content := by
  rw [World.readText_of_bytes h, htext]

end CompileFlags.Disk
