import CompileFlags.Proofs.Disk.Places

set_option autoImplicit false

namespace CompileFlags.Disk

theorem mem_of_lookup {α : Type} {items : List (String × α)} {name : String} {a : α}
    (h : items.lookup name = some a) : (name, a) ∈ items := by
  obtain ⟨before, after, rfl, -⟩ := List.lookup_eq_some_iff.1 h
  exact List.mem_append_right _ List.mem_cons_self

def Node.LinkFree (tree : Node) : Prop :=
  ∀ (place : Place) (target : Path), tree.at? place ≠ some (.link target)

theorem linkFree_file (content : List UInt8) (rights : Rights) :
    (Node.file content rights).LinkFree := by
  intro place target
  cases place <;> simp [Node.at?]

theorem linkFree_folder {entries : List (String × Node)} {rights : Rights}
    (h : ∀ e ∈ entries, e.2.LinkFree) : (Node.folder entries rights).LinkFree := by
  intro place target hat
  cases place with
  | nil => simp at hat
  | cons name rest =>
    obtain ⟨n, hn, hrest⟩ := Option.bind_eq_some_iff.1 hat
    exact h (name, n) (mem_of_lookup hn) rest target hrest

theorem Node.LinkFree.not_link {tree child : Node} (h : tree.LinkFree) {place : Place}
    {name : String} {n : Node} (hplace : tree.at? place = some n)
    (hchild : n.child? name = some child) (target : Path) : child ≠ .link target := by
  rintro rfl
  refine h (place ++ [name]) target ?_
  rw [Node.at?_append, hplace]
  simp [Node.at?, hchild]

variable {tree : Node} {ending : Ending} {links : Nat} {place found : Place} {hopsLeft : List Hop}

/-- Without links the hops alone say where a path leads. -/
theorem Leads.eq_foldl (hfree : tree.LinkFree) (h : Leads tree ending links place hopsLeft found) :
    found = hopsLeft.foldl Hop.lead place := by
  induction h with
  | done => rfl
  | step _ _ _ _ ih => exact ih
  | create | keep => rfl
  | through hat _ _ hchild => exact absurd rfl (hfree.not_link hat hchild _)

theorem Leads.short (hfree : tree.LinkFree) (h : Leads tree ending links place hopsLeft found) :
    ∀ s, .name s ∈ hopsLeft → s.utf8ByteSize ≤ nameLimit := by
  induction h with
  | done => simp
  | step _ _ hplain _ ih =>
    intro s hs
    rcases List.mem_cons.1 hs with rfl | hs
    · exact hplain.1
    · exact ih s hs
  | create _ _ hshort | keep _ _ hshort =>
    intro s hs
    cases List.mem_singleton.1 hs
    exact hshort
  | through hat _ _ hchild => exact absurd rfl (hfree.not_link hat hchild _)

theorem Leads.isSome_reach? (hfree : tree.LinkFree)
    (h : Leads tree ending links place hopsLeft found) {n : Node} (hfound : tree.at? found = some n)
    (hplace : (tree.reach? place).isSome = true) : tree.reach? found = some n := by
  induction h with
  | @done links place =>
    obtain ⟨m, hm⟩ := Option.isSome_iff_exists.1 hplace
    rw [hm, ← Node.at?_of_reach? hm, hfound]
  | @step links place found hop rest m hat hn hplain _ ih =>
    refine ih hfound ?_
    cases hop with
    | slash | here => exact hplace
    | up =>
      obtain rfl | ⟨front, last, rfl⟩ := List.eq_nil_or_concat place
      · exact hplace
      · rw [List.concat_eq_append, Node.reach?_append] at hplace
        rw [Hop.lead, List.concat_eq_append, List.dropLast_concat]
        exact Option.isSome_of_isSome_bind hplace
    | name s =>
      obtain ⟨k, hk⟩ := Option.isSome_iff_exists.1 hplace
      obtain rfl : k = m := Option.some.inj ((Node.at?_of_reach? hk).symm.trans hat)
      obtain ⟨-, child, hchild, -⟩ := hplain
      rw [Hop.lead, Node.reach?_append, hk]
      simp [Node.reach?, hn.2.resolve_right Hop.noConfusion, hchild]
  | create hat _ _ hchild =>
    rw [Node.at?_append, hat, Option.bind_some, Node.at?, hchild] at hfound
    cases hfound
  | keep hat _ _ hchild | through hat _ _ hchild =>
    exact absurd rfl (hfree.not_link hat hchild _)

theorem foldl_lead_names (place names : Place) :
    (names.map Hop.name).foldl Hop.lead place = place ++ names := by
  induction names generalizing place with
  | nil => simp
  | cons name names ih =>
    rw [List.map_cons, List.foldl_cons, ih]
    simp [Hop.lead]

variable {w : World} {p : Path}

theorem World.placeFrom_of_place (hp : p.isAbsolute = true)
    (h : w.place ending p = .ok found) :
    placeFrom w.tree ending linkLimit [] (hops p) = .ok found := by
  rcases (World.place_cases h).2 with ⟨-, hfrom⟩ | ⟨hrelative, -⟩
  · exact hfrom
  · rw [hp] at hrelative
    cases hrelative

theorem World.place_of_node {n : Node} (h : w.node ending p = .ok n) :
    ∃ place, w.place ending p = .ok place ∧ w.tree.at? place = some n := by
  unfold World.node at h
  cases hplace : w.place ending p with
  | error cause =>
    rw [hplace] at h
    cases h
  | ok place =>
    cases hat : w.tree.at? place with
    | none => simp [hplace, hat, bind, Except.bind] at h
    | some m =>
      simp only [hplace, hat, bind, Except.bind] at h
      exact ⟨place, rfl, by rw [hat, Except.ok.inj h]⟩

theorem World.node_of_place {n : Node} (hplace : w.place ending p = .ok found)
    (hat : w.tree.at? found = some n) : w.node ending p = .ok n := by
  simp only [World.node, hplace, bind, Except.bind, hat]
  rfl

theorem World.node_of_readBytes {bytes : List UInt8} (h : w.readBytes p = .ok bytes) :
    ∃ rights, w.node .follow p = .ok (.file bytes rights) ∧ rights.read = true := by
  unfold World.readBytes at h
  cases hnode : w.node .follow p with
  | error cause => simp [hnode, bind, Except.bind] at h
  | ok n => cases n with
    | link | folder => simp [hnode, bind, Except.bind] at h
    | file content rights =>
      simp only [hnode, bind, Except.bind] at h
      split at h
      · next hread =>
        cases h
        exact ⟨rights, rfl, hread⟩
      · cases h

theorem World.node_of_readText {content : String} (h : w.readText p = .ok content) :
    ∃ bytes rights, w.node .follow p = .ok (.file bytes rights) ∧ rights.read = true ∧
      Text.Utf8.decode? bytes = some content := by
  cases hbytes : w.readBytes p with
  | error cause =>
    rw [World.readText_of_unreadable hbytes] at h
    cases h
  | ok bytes =>
    obtain ⟨rights, hnode, hread⟩ := World.node_of_readBytes hbytes
    refine ⟨bytes, rights, hnode, hread, ?_⟩
    rw [World.readText_of_bytes hbytes] at h
    split at h
    · next text htext =>
      cases h
      exact htext
    · cases h

theorem World.isFile_of_readText {content : String} (h : w.readText p = .ok content) :
    w.isFile p = true := by
  obtain ⟨bytes, rights, hnode, -⟩ := World.node_of_readText h
  rw [World.isFile, hnode]
  rfl

theorem at?_of_node (hfree : w.tree.LinkFree) {names : List String} (hne : names ≠ [])
    (hnames : ∀ n ∈ names, Path.IsName n) {n : Node}
    (h : w.node .follow (Path.ofNames names) = .ok n) : w.tree.at? names = some n := by
  obtain ⟨place, hplace, hat⟩ := World.place_of_node h
  have hfrom := World.placeFrom_of_place (Path.isAbsolute_ofNames names) hplace
  rw [hops_ofNames hne hnames] at hfrom
  rw [← hat, (leads_of_placeFrom hfrom).eq_foldl hfree, foldl_lead_names, List.nil_append]

end CompileFlags.Disk
