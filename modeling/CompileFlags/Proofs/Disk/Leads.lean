import CompileFlags.Disk.Resolve

set_option autoImplicit false

namespace CompileFlags.Disk

def Node.Admits (n : Node) (hop : Hop) : Prop :=
  n.isFolder = true ∧ (n.rights.execute = true ∨ hop = .slash)

theorem Node.admits_iff {n : Node} {hop : Hop} :
    n.Admits hop ↔ ¬ (!n.isFolder) = true ∧ ¬ ((!n.rights.execute) = true ∧ hop ≠ .slash) := by
  unfold Node.Admits
  cases n.isFolder <;> cases n.rights.execute <;> simp

def Node.reach? (n : Node) : Place → Option Node
  | [] => some n
  | name :: rest => if n.rights.execute then (n.child? name).bind (·.reach? rest) else none

theorem Node.at?_of_reach? {n m : Node} {place : Place} (h : n.reach? place = some m) :
    n.at? place = some m := by
  induction place generalizing n with
  | nil => exact h
  | cons name rest ih =>
    rw [reach?] at h
    split at h
    · obtain ⟨child, hchild, hrest⟩ := Option.bind_eq_some_iff.1 h
      rw [at?, hchild]
      exact ih hrest
    · cases h

theorem Node.reach?_append (n : Node) (p q : Place) :
    n.reach? (p ++ q) = (n.reach? p).bind (·.reach? q) := by
  induction p generalizing n with
  | nil => rfl
  | cons name p ih =>
    rw [List.cons_append, reach?, reach?]
    split
    · cases n.child? name with
      | none => rfl
      | some m => exact ih m
    · rfl

theorem isFolder_of_child? {n m : Node} {name : String} (h : n.child? name = some m) :
    n.isFolder = true := by
  cases n with
  | folder => rfl
  | file | link => simp [Node.child?, Node.entries] at h

def Hop.lead (place : Place) : Hop → Place
  | .slash | .here => place
  | .up => place.dropLast
  | .name s => place ++ [s]

def Hop.IsPlain (n : Node) : Hop → Prop
  | .name s => s.utf8ByteSize ≤ nameLimit ∧ ∃ m, n.child? s = some m ∧ ∀ target, m ≠ .link target
  | _ => True

/-- Hops lead from a place to another with so many links at most. -/
inductive Leads (tree : Node) (ending : Ending) : Nat → Place → List Hop → Place → Prop
  | done {links : Nat} {place : Place} : Leads tree ending links place [] place
  | step {links : Nat} {place found : Place} {hop : Hop} {rest : List Hop} {n : Node}
      (hat : tree.at? place = some n) (hn : n.Admits hop) (hplain : hop.IsPlain n)
      (h : Leads tree ending links (hop.lead place) rest found) :
      Leads tree ending links place (hop :: rest) found
  | create {links : Nat} {place : Place} {s : String} {n : Node}
      (hat : tree.at? place = some n) (hn : n.Admits (.name s))
      (hshort : s.utf8ByteSize ≤ nameLimit) (hchild : n.child? s = none)
      (hending : ending = .create) : Leads tree ending links place [.name s] (place ++ [s])
  | keep {links : Nat} {place : Place} {s : String} {n : Node} {target : Path}
      (hat : tree.at? place = some n) (hn : n.Admits (.name s))
      (hshort : s.utf8ByteSize ≤ nameLimit) (hchild : n.child? s = some (.link target))
      (hending : ending = .keep) : Leads tree ending links place [.name s] (place ++ [s])
  | through {links : Nat} {place found : Place} {s : String} {rest : List Hop} {n : Node}
      {target : Path} (hat : tree.at? place = some n) (hn : n.Admits (.name s))
      (hshort : s.utf8ByteSize ≤ nameLimit) (hchild : n.child? s = some (.link target))
      (hmore : ¬ (rest = [] ∧ ending = .keep)) (htarget : target.isEmpty = false)
      (h : Leads tree ending links (if target.isAbsolute then [] else place)
        (hops target ++ rest) found) :
      Leads tree ending (links + 1) place (.name s :: rest) found

variable {tree : Node} {ending : Ending} {links : Nat} {place found : Place} {hopsLeft : List Hop}

theorem placeFrom_step {hop : Hop} {rest : List Hop} {n : Node} (hat : tree.at? place = some n)
    (hn : n.Admits hop) (hplain : hop.IsPlain n) :
    placeFrom tree ending links place (hop :: rest) =
      placeFrom tree ending links (hop.lead place) rest := by
  obtain ⟨hfolder, hopen⟩ := Node.admits_iff.1 hn
  rw [placeFrom, hat]
  simp only [if_neg hfolder, if_neg hopen]
  cases hop with
  | slash | here | up => rfl
  | name s =>
    obtain ⟨hshort, m, hchild, hlink⟩ := hplain
    simp only [if_neg (Nat.not_lt.2 hshort), hchild]
    cases m with
    | link target => exact absurd rfl (hlink target)
    | file | folder => rfl

theorem placeFrom_through {s : String} {rest : List Hop} {n : Node} {target : Path}
    (hat : tree.at? place = some n) (hn : n.Admits (.name s)) (hshort : s.utf8ByteSize ≤ nameLimit)
    (hchild : n.child? s = some (.link target)) (hmore : ¬ (rest = [] ∧ ending = .keep))
    (htarget : target.isEmpty = false) :
    placeFrom tree ending (links + 1) place (.name s :: rest) =
      placeFrom tree ending links (if target.isAbsolute then [] else place)
        (hops target ++ rest) := by
  obtain ⟨hfolder, hopen⟩ := Node.admits_iff.1 hn
  rw [placeFrom, hat]
  simp only [if_neg hfolder, if_neg hopen, if_neg (Nat.not_lt.2 hshort), hchild, if_neg hmore,
    htarget, Bool.false_eq_true, if_false]

theorem Leads.placeFrom (h : Leads tree ending links place hopsLeft found) :
    placeFrom tree ending links place hopsLeft = .ok found := by
  induction h with
  | done => rw [Disk.placeFrom]
  | step hat hn hplain _ ih => rw [placeFrom_step hat hn hplain, ih]
  | create hat hn hshort hchild hending | keep hat hn hshort hchild hending =>
    obtain ⟨hfolder, hopen⟩ := Node.admits_iff.1 hn
    rw [Disk.placeFrom, hat]
    simp only [if_neg hfolder, if_neg hopen, if_neg (Nat.not_lt.2 hshort), hchild, hending,
      and_self, if_true]
  | through hat hn hshort hchild hmore htarget _ ih =>
    rw [placeFrom_through hat hn hshort hchild hmore htarget, ih]

theorem leads_of_placeFrom (h : placeFrom tree ending links place hopsLeft = .ok found) :
    Leads tree ending links place hopsLeft found := by
  induction links, place, hopsLeft using placeFrom.induct tree ending with
  | case1 links place =>
    rw [placeFrom] at h
    cases h
    exact .done
  | case2 links place hop rest hat => simp [placeFrom, hat] at h
  | case3 links place hop rest n hat hfolder => simp [placeFrom, hat, hfolder] at h
  | case4 links place hop rest n hat hfolder hclosed =>
    simp only [placeFrom, hat, if_neg hfolder, if_pos hclosed] at h
    cases h
  | case5 links place rest n hat hfolder hopen ih | case6 links place rest n hat hfolder hopen ih
  | case7 links place rest n hat hfolder hopen ih =>
    simp only [placeFrom, hat, if_neg hfolder, if_neg hopen] at h
    exact .step hat (Node.admits_iff.2 ⟨hfolder, hopen⟩) trivial (ih h)
  | case8 links place rest n hat hfolder s hlong hopen =>
    simp only [placeFrom, hat, if_neg hfolder, if_neg hopen, if_pos hlong] at h
    cases h
  | case9 links place rest n hat hfolder s hlong hchild hend hopen =>
    simp only [placeFrom, hat, if_neg hfolder, if_neg hopen, if_neg hlong, hchild, if_pos hend] at h
    cases h
    obtain ⟨rfl, hending⟩ := hend
    exact .create hat (Node.admits_iff.2 ⟨hfolder, hopen⟩) (Nat.not_lt.1 hlong) hchild hending
  | case10 links place rest n hat hfolder s hlong hchild hend hopen =>
    simp only [placeFrom, hat, if_neg hfolder, if_neg hopen, if_neg hlong, hchild, if_neg hend] at h
    cases h
  | case11 links place rest n hat hfolder s hlong target hchild hend hopen =>
    simp only [placeFrom, hat, if_neg hfolder, if_neg hopen, if_neg hlong, hchild, if_pos hend] at h
    cases h
    obtain ⟨rfl, hending⟩ := hend
    exact .keep hat (Node.admits_iff.2 ⟨hfolder, hopen⟩) (Nat.not_lt.1 hlong) hchild hending
  | case12 place rest n hat hfolder s hlong target hchild hend hopen =>
    simp only [placeFrom, hat, if_neg hfolder, if_neg hopen, if_neg hlong, hchild, if_neg hend] at h
    cases h
  | case13 place rest n hat hfolder s hlong target hchild hend links hempty hopen =>
    simp only [placeFrom, hat, if_neg hfolder, if_neg hopen, if_neg hlong, hchild, if_neg hend,
      if_pos hempty] at h
    cases h
  | case14 place rest n hat hfolder s hlong target hchild hend links hempty hopen ih =>
    simp only [placeFrom, hat, if_neg hfolder, if_neg hopen, if_neg hlong, hchild, if_neg hend,
      if_neg hempty] at h
    exact .through hat (Node.admits_iff.2 ⟨hfolder, hopen⟩) (Nat.not_lt.1 hlong) hchild hend
      (Bool.eq_false_iff.2 hempty) (ih h)
  | case15 links place rest n hat hfolder s hlong m hlink hchild hopen ih =>
    simp only [placeFrom, hat, if_neg hfolder, if_neg hopen, if_neg hlong, hchild] at h
    refine .step hat (Node.admits_iff.2 ⟨hfolder, hopen⟩) ⟨Nat.not_lt.1 hlong, m, hchild, hlink⟩ ?_
    cases m with
    | link target => exact absurd rfl (hlink target)
    | file | folder => exact ih h

theorem placeFrom_eq_ok_iff :
    placeFrom tree ending links place hopsLeft = .ok found ↔
      Leads tree ending links place hopsLeft found :=
  ⟨leads_of_placeFrom, Leads.placeFrom⟩

/-- Names lead straight to the place that they spell, unless a link stands there. -/
theorem leads_names {n : Node} {names : Place} (hat : (tree.at? place).bind (·.reach? names) = some n)
    (hlink : ∀ target, n ≠ .link target) (hshort : ∀ m ∈ names, m.utf8ByteSize ≤ nameLimit) :
    Leads tree ending links place (names.map .name) (place ++ names) := by
  induction names generalizing place with
  | nil =>
    rw [List.append_nil]
    exact .done
  | cons name names ih =>
    obtain ⟨m, hm, hreach⟩ := Option.bind_eq_some_iff.1 hat
    rw [Node.reach?] at hreach
    split at hreach
    · next hopen =>
      obtain ⟨child, hchild, hrest⟩ := Option.bind_eq_some_iff.1 hreach
      have hhere : (tree.at? (place ++ [name])).bind (·.reach? names) = some n := by
        rw [Node.at?_append, hm, Option.bind_some, Node.at?, hchild]
        exact hrest
      have hnolink : ∀ target, child ≠ .link target := by
        rintro target rfl
        cases names with
        | nil => exact hlink target (Option.some.inj hrest).symm
        | cons next names => simp [Node.reach?, Node.child?, Node.entries] at hrest
      have hlead := ih hhere fun m hm => hshort m (List.mem_cons_of_mem name hm)
      rw [List.append_assoc] at hlead
      exact .step hm ⟨isFolder_of_child? hchild, .inl hopen⟩
        ⟨hshort name List.mem_cons_self, child, hchild, hnolink⟩ hlead
    · cases hreach

/-- Followed to its end, a path that ends in no link leads to the same place. -/
theorem Leads.follow (h : Leads tree .keep links place hopsLeft found)
    (hlink : ∀ target, tree.at? found ≠ some (.link target)) :
    Leads tree .follow links place hopsLeft found := by
  induction h with
  | done => exact .done
  | step hat hn hplain _ ih => exact .step hat hn hplain (ih hlink)
  | create _ _ _ _ hending => cases hending
  | @keep links place s n target hat hn hshort hchild =>
    refine absurd ?_ (hlink target)
    rw [Node.at?_append, hat, Option.bind_some, Node.at?, hchild]
    rfl
  | through hat hn hshort hchild _ htarget _ ih =>
    exact .through hat hn hshort hchild (fun hend => by cases hend.2) htarget (ih hlink)

theorem Leads.placeFrom_append (h : Leads tree .follow links place hopsLeft found) :
    ∃ left, ∀ more, Disk.placeFrom tree .follow links place (hopsLeft ++ more) =
      Disk.placeFrom tree .follow left found more := by
  induction h with
  | @done links => exact ⟨links, fun more => rfl⟩
  | step hat hn hplain _ ih =>
    obtain ⟨left, hleft⟩ := ih
    exact ⟨left, fun more => (placeFrom_step hat hn hplain).trans (hleft more)⟩
  | create _ _ _ _ hending | keep _ _ _ _ hending => cases hending
  | through hat hn hshort hchild _ htarget _ ih =>
    obtain ⟨left, hleft⟩ := ih
    refine ⟨left, fun more => ?_⟩
    rw [List.cons_append, placeFrom_through hat hn hshort hchild (fun hend => by cases hend.2)
      htarget, ← List.append_assoc]
    exact hleft more

end CompileFlags.Disk
