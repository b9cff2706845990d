import CompileFlags.Proofs.Disk.LinkFree
import Mathlib.Data.String.Basic

set_option autoImplicit false

namespace CompileFlags.Disk

section

variable {tree : Node} {links : Nat} {place found : Place}

theorem Leads.front {front back : List Hop}
    (h : Leads tree .follow links place (front ++ back) found) :
    ∃ via, Leads tree .follow links place front via := by
  generalize hhops : front ++ back = hopsLeft at h
  induction h generalizing front with
  | @done links place =>
    obtain ⟨rfl, -⟩ := List.append_eq_nil_iff.1 hhops
    exact ⟨place, .done⟩
  | @step links place found hop rest n hat hn hplain _ ih =>
    rcases List.append_eq_cons_iff.1 hhops with ⟨rfl, -⟩ | ⟨front, rfl, hrest⟩
    · exact ⟨place, .done⟩
    · obtain ⟨via, hvia⟩ := ih hrest.symm
      exact ⟨via, .step hat hn hplain hvia⟩
  | create _ _ _ _ hending | keep _ _ _ _ hending => cases hending
  | @through links place found s rest n target hat hn hshort hchild hmore htarget _ ih =>
    rcases List.append_eq_cons_iff.1 hhops with ⟨rfl, -⟩ | ⟨front, rfl, rfl⟩
    · exact ⟨place, .done⟩
    · obtain ⟨via, hvia⟩ := ih (List.append_assoc ..)
      exact ⟨via, .through hat hn hshort hchild (fun hend => by cases hend.2) htarget hvia⟩

theorem Leads.straight {names more entries rights}
    (h : Leads tree .follow links place ((names ++ more).map .name) found)
    (hat : tree.at? (place ++ names) = some (.folder entries rights)) :
    Leads tree .follow links place (names.map .name) (place ++ names) := by
  induction names generalizing place with
  | nil =>
    rw [List.append_nil]
    exact .done
  | cons name names ih =>
    have hnext : tree.at? (place ++ [name] ++ names) = some (.folder entries rights) := by
      rw [List.append_assoc]
      exact hat
    have hplace : place ++ name :: names = place ++ [name] ++ names := by simp
    rw [List.cons_append, List.map_cons] at h
    generalize hrest : (names ++ more).map Hop.name = rest at h
    cases h with
    | step hhere hn hplain hbelow =>
      rw [← hrest] at hbelow
      rw [hplace]
      exact .step hhere hn hplain (ih hbelow hnext)
    | create _ _ _ _ hending => cases hending
    | keep _ _ _ _ hending => cases hending
    | @through _ _ _ _ _ n target hhere hn hshort hchild =>
      rw [Node.at?_append, Node.at?_append, hhere, Option.bind_some, Node.at?, hchild] at hnext
      cases names <;> simp [Node.at?, Node.child?, Node.entries] at hnext

end

def innerHops (p : Path) : List Hop :=
  p.pieces.filterMap Hop.ofPiece?

theorem hops_child (p : Path) {name : String} (h : Path.IsName name) :
    innerHops (p.child name) = innerHops p ++ [.name name] ∧
      hops (p.child name) = innerHops p ++ [.name name] := by
  obtain ⟨front, hpieces, hfront⟩ := Path.pieces_child p name
  rw [Path.pieces_of_isName h] at hpieces
  have hinner : innerHops (p.child name) = innerHops p ++ [.name name] := by
    rw [innerHops, hpieces, List.filterMap_append, hfront Hop.ofPiece? rfl]
    simp [innerHops, hopOfPiece?_of_isName h]
  refine ⟨hinner, ?_⟩
  rw [hops, hpieces, List.getLast?_concat, if_neg (by simpa using h.1), List.append_nil, ← hpieces]
  exact hinner

theorem innerHops_foldl_child (p : Path) {names : Place} (h : ∀ n ∈ names, Path.IsName n) :
    innerHops (names.foldl Path.child p) = innerHops p ++ names.map .name := by
  induction names generalizing p with
  | nil => simp
  | cons name names ih =>
    rw [List.foldl_cons, ih _ fun n hn => h n (List.mem_cons_of_mem name hn),
      (hops_child p (h name (by simp))).1]
    simp

theorem hops_foldl_child (p : Path) {names : Place} (hne : names ≠ [])
    (h : ∀ n ∈ names, Path.IsName n) :
    hops (names.foldl Path.child p) = innerHops p ++ names.map .name := by
  obtain ⟨front, last, rfl⟩ := (List.eq_nil_or_concat names).resolve_left hne
  rw [List.concat_eq_append] at h ⊢
  rw [List.foldl_append, List.foldl_cons, List.foldl_nil, (hops_child _ (h last (by simp))).2,
    innerHops_foldl_child p fun n hn => h n (List.mem_append_left _ hn)]
  simp

theorem toList_isPrefix_foldl_child (p : Path) (names : Place) :
    p.text.toList <+: (names.foldl Path.child p).text.toList := by
  induction names generalizing p with
  | nil => exact List.prefix_rfl
  | cons name names ih => exact (Path.toList_isPrefix_child p name).trans (ih _)

variable {w : World} {root : Path} {start found : Place}

theorem Leads.innerHops {tree : Node} {links : Nat} {place : Place}
    (h : Leads tree .follow links place (hops root) found) :
    Leads tree .follow links place (innerHops root) found := by
  rw [hops] at h
  split at h
  · obtain ⟨via, hvia⟩ := h.front
    obtain ⟨left, hleft⟩ := hvia.placeFrom_append
    have hslash := leads_of_placeFrom ((hleft [.slash]).symm.trans h.placeFrom)
    cases hslash with
    | step _ _ _ hdone =>
      cases hdone
      exact hvia
  · rwa [List.append_nil] at h

theorem World.place_of_isPrefix {q : Path} (hq : w.place .follow q = .ok found) :
    ∃ base, ∀ p : Path, p.text.toList <+: q.text.toList → p.isEmpty = false →
      w.place .follow p = placeFrom w.tree .follow linkLimit base (hops p) := by
  obtain ⟨⟨hnul, hfits, -⟩, hcases⟩ := World.place_cases hq
  have hfront : ∀ p : Path, p.text.toList <+: q.text.toList → p.isEmpty = false →
      p.isAbsolute = q.isAbsolute ∧ '\x00' ∉ p.text.toList ∧ p.text.utf8ByteSize ≤ pathLimit := by
    intro p hinit hempty
    refine ⟨?_, fun hmem => hnul (hinit.subset hmem), ?_⟩
    · obtain ⟨rest, hrest⟩ := hinit
      have hchars : p.text.toList ≠ [] := by
        intro hnil
        simp [Path.isEmpty, String.toList_eq_nil_iff.1 hnil] at hempty
      rw [Path.isAbsolute, Path.isAbsolute, ← hrest, List.head?_append_of_ne_nil _ hchars]
    · have hsize := String.utf8Len_le_of_sublist hinit.sublist
      rw [String.utf8Len_toList, String.utf8Len_toList] at hsize
      exact hsize.trans hfits
  rcases hcases with ⟨habsolute, -⟩ | ⟨hrelative, start, hcwd, -⟩
  · refine ⟨[], fun p hinit hempty => ?_⟩
    obtain ⟨hsame, hnul, hfits⟩ := hfront p hinit hempty
    exact w.place_of_isAbsolute .follow (hsame.trans habsolute) hnul hfits
  · refine ⟨start, fun p hinit hempty => ?_⟩
    obtain ⟨hsame, hnul, hfits⟩ := hfront p hinit hempty
    exact w.place_of_relative .follow hcwd (hsame.trans hrelative) hempty hnul hfits

/-- Where a path below a folder leads somewhere, it and the starts of it are followed from there. -/
theorem World.place_below {names : Place} (hroot : w.place .follow root = .ok start)
    (hnames : ∀ n ∈ names, Path.IsName n)
    (h : w.place .follow (names.foldl Path.child root) = .ok found) :
    ∃ left, ∀ front, front ≠ [] → front <+: names →
      w.place .follow (front.foldl Path.child root) =
        placeFrom w.tree .follow left start (front.map .name) := by
  have hempty : ∀ names : Place, (names.foldl Path.child root).isEmpty = false := by
    intro names
    have hfull : root.text.toList ≠ [] := by
      simpa [Path.isEmpty] using (World.place_cases hroot).1.2.2
    have hfull := (toList_isPrefix_foldl_child root names).ne_nil hfull
    simpa [Path.isEmpty] using hfull
  obtain ⟨base, hbase⟩ := World.place_of_isPrefix h
  have hfollowed : ∀ front, front <+: names → w.place .follow (front.foldl Path.child root) =
      placeFrom w.tree .follow linkLimit base (hops (front.foldl Path.child root)) := by
    rintro front ⟨back, rfl⟩
    refine hbase _ ?_ (hempty front)
    rw [List.foldl_append]
    exact toList_isPrefix_foldl_child _ back
  have hstart := (hfollowed [] List.nil_prefix).symm.trans hroot
  obtain ⟨left, hleft⟩ := (leads_of_placeFrom hstart).innerHops.placeFrom_append
  refine ⟨left, fun front hne hinit => ?_⟩
  rw [hfollowed front hinit, hops_foldl_child root hne fun n hn => hnames n (hinit.subset hn)]
  exact hleft _

variable {names more : Place} {entries : List (String × Node)} {rights : Rights}

theorem World.place_of_descent (hroot : w.place .follow root = .ok start)
    (hnames : ∀ n ∈ names ++ more, Path.IsName n)
    (hat : w.tree.at? (start ++ names) = some (.folder entries rights))
    (h : w.place .follow ((names ++ more).foldl Path.child root) = .ok found) :
    w.place .follow (names.foldl Path.child root) = .ok (start ++ names) := by
  by_cases hne : names = []
  · subst hne
    rwa [List.append_nil]
  · obtain ⟨left, hleft⟩ := World.place_below hroot hnames h
    rw [hleft _ (by simp [hne]) List.prefix_rfl] at h
    rw [hleft _ hne (List.prefix_append names more)]
    exact ((leads_of_placeFrom h).straight hat).placeFrom

/-- What is found below a real folder is an entry of it, and a folder only if that is one. -/
theorem World.child_of_descent {name : String} (hroot : w.place .follow root = .ok start)
    (hnames : ∀ n ∈ names ++ [name], Path.IsName n)
    (hat : w.tree.at? (start ++ names) = some (.folder entries rights))
    (h : w.place .follow ((names ++ [name]).foldl Path.child root) = .ok found) :
    ∃ n, entries.lookup name = some n ∧
      (n.isFolder = true → w.tree.at? found = some n) := by
  obtain ⟨left, hleft⟩ := World.place_below hroot hnames h
  rw [hleft _ (by simp) List.prefix_rfl] at h
  obtain ⟨less, hless⟩ := ((leads_of_placeFrom h).straight hat).placeFrom_append
  rw [List.map_append, hless] at h
  have hlast := leads_of_placeFrom h
  rw [List.map_singleton] at hlast
  cases hlast with
  | step hhere _ hplain hdone =>
    cases hdone
    cases hat.symm.trans hhere
    obtain ⟨-, m, hchild, -⟩ := hplain
    refine ⟨m, hchild, fun _ => ?_⟩
    rw [Hop.lead, Node.at?_append, hat, Option.bind_some, Node.at?, hchild]
    rfl
  | create _ _ _ _ hending | keep _ _ _ _ hending => cases hending
  | @through _ _ _ _ _ _ target hhere _ _ hchild =>
    cases hat.symm.trans hhere
    exact ⟨.link target, hchild, fun hfolder => by cases hfolder⟩

end CompileFlags.Disk
