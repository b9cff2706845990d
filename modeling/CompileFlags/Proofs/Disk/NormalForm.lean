import CompileFlags.Proofs.Disk.LinkFree
import CompileFlags.Proofs.Path.Climbing
import Mathlib.Data.String.Basic

set_option autoImplicit false

namespace CompileFlags.Disk

variable {w : World} {p : Path} {ending : Ending} {place : Place}

theorem foldl_lead_pieces (place : Place) (pieces : List String) :
    (pieces.filterMap Hop.ofPiece?).foldl Hop.lead place = pieces.foldl Path.enter place := by
  induction pieces generalizing place with
  | nil => rfl
  | cons piece pieces ih =>
    rw [List.foldl_cons, ← ih]
    by_cases hempty : piece = ""
    · simp [Hop.ofPiece?, Path.enter, hempty]
    · by_cases hdot : piece = "."
      · simp [Hop.ofPiece?, Path.enter, hdot, Hop.lead]
      · by_cases hup : piece = ".."
        · simp [Hop.ofPiece?, Path.enter, hup, Hop.lead]
        · simp [Hop.ofPiece?, Path.enter, hempty, hdot, hup, Hop.lead]

theorem foldl_lead_hops (p : Path) : (hops p).foldl Hop.lead [] = p.evaluate := by
  rw [hops, List.foldl_append, foldl_lead_pieces, Path.evaluate]
  split <;> rfl

theorem name_mem_hops {n : String} (h : n ∈ p.evaluate) : Hop.name n ∈ hops p := by
  have hpiece : n ∈ p.pieces := by
    simpa using (Path.foldl_enter_sublist [] p.pieces).subset h
  have hhop := hopOfPiece?_of_isName (Path.isName_of_mem_evaluate h)
  exact List.mem_append_left _ (List.mem_filterMap.2 ⟨n, hpiece, hhop⟩)

theorem hops_ne_nil (p : Path) : hops p ≠ [] := by
  obtain ⟨front, last, hpieces⟩ := (List.eq_nil_or_concat p.pieces).resolve_left p.pieces_ne_nil
  rw [hops, hpieces, List.concat_eq_append]
  by_cases hlast : last = ""
  · simp [hlast]
  · have hhop : Hop.ofPiece? last ≠ none := by
      unfold Hop.ofPiece?
      rw [if_neg hlast]
      split
      · simp
      · split <;> simp
    obtain ⟨hop, hhop⟩ := Option.ne_none_iff_exists'.1 hhop
    simp [List.filterMap_append, hhop]

theorem eq_evaluate_of_place (hfree : w.tree.LinkFree) (hp : p.isAbsolute = true)
    (h : w.place ending p = .ok place) : place = p.evaluate := by
  rw [← foldl_lead_hops]
  exact (leads_of_placeFrom (World.placeFrom_of_place hp h)).eq_foldl hfree

theorem admissible_evaluate (hfree : w.tree.LinkFree) (hp : p.isAbsolute = true)
    (h : w.place ending p = .ok place) : Admissible p.evaluate := by
  obtain ⟨⟨hnul, hfits, -⟩, -⟩ := World.place_cases h
  have hshort := (leads_of_placeFrom (World.placeFrom_of_place hp h)).short hfree
  have hsublist := Path.toList_normalize_sublist hp
  rw [Path.normalize_eq_ofNames hp] at hsublist
  refine ⟨fun n => Path.isName_of_mem_evaluate, fun n hn => hshort n (name_mem_hops hn), ?_, ?_⟩
  · exact fun hmem => hnul (hsublist.subset hmem)
  · have hsize := String.utf8Len_le_of_sublist hsublist
    rw [String.utf8Len_toList, String.utf8Len_toList] at hsize
    exact hsize.trans hfits

theorem isFolder_of_place (hp : p.isAbsolute = true) (h : w.place ending p = .ok place) :
    w.tree.isFolder = true := by
  obtain ⟨hop, rest, hhops⟩ := List.exists_cons_of_ne_nil (hops_ne_nil p)
  have hleads := leads_of_placeFrom (World.placeFrom_of_place hp h)
  rw [hhops] at hleads
  cases hleads with
  | step hat hn | create hat hn | keep hat hn | through hat hn =>
    cases hat
    exact hn.1

theorem World.place_normalize (hfree : w.tree.LinkFree) (hp : p.isAbsolute = true)
    (h : w.place ending p = .ok place) {n : Node} (hat : w.tree.at? place = some n) :
    w.place ending p.normalize = .ok place := by
  have hplace := eq_evaluate_of_place hfree hp h
  rw [Path.normalize_eq_ofNames hp]
  by_cases hroot : p.evaluate = []
  · rw [hplace, hroot]
    exact place_root w ending (isFolder_of_place hp h)
  · have hlink : ∀ target, n ≠ .link target := by
      rintro target rfl
      exact hfree place target hat
    have hreach : w.tree.reach? place = some n :=
      (leads_of_placeFrom (World.placeFrom_of_place hp h)).isSome_reach? hfree hat rfl
    rw [hplace] at hreach ⊢
    exact place_ofNames ending (admissible_evaluate hfree hp h) hroot hreach hlink

/-- The normal form of an absolute path spells its evaluation from the root, and where no path meets
a link it leads to the same node at the same place. Every normal form, relative ones included, is
its own normal form and has some text. -/
theorem normalize_evaluates (p : Path) :
    (p.isAbsolute = true →
      (∀ n ∈ p.evaluate, Path.IsName n) ∧ p.normalize = Path.ofNames p.evaluate ∧
      ∀ (w : World) (ending : Ending) (n : Node), w.tree.LinkFree → w.node ending p = .ok n →
        w.node ending p.normalize = .ok n ∧
        ∃ place, w.place ending p = .ok place ∧ w.place ending p.normalize = .ok place) ∧
    p.normalize.normalize = p.normalize ∧ p.normalize.text ≠ "" := by
  refine ⟨fun hp => ⟨fun n => Path.isName_of_mem_evaluate, Path.normalize_eq_ofNames hp, ?_⟩,
    Path.normalize_normalize p, Path.normalize_text_ne_empty p⟩
  intro w ending n hfree hnode
  obtain ⟨place, hplace, hat⟩ := World.place_of_node hnode
  have hnormal := World.place_normalize hfree hp hplace hat
  exact ⟨World.node_of_place hnormal hat, place, hplace, hnormal⟩

def headerFolder : World where
  tree := .folder [("usr", .folder [("gcc", .folder [] .all), ("include", .folder [] .all)] .all)]
    .all
  cwd := none
  programDirs := []

theorem linkFree_headerFolder : headerFolder.tree.LinkFree := by
  have hempty : (Node.folder [] .all).LinkFree := linkFree_folder (by simp)
  have husr : (Node.folder [("gcc", .folder [] .all), ("include", .folder [] .all)] .all).LinkFree :=
    linkFree_folder (by simp [hempty])
  exact linkFree_folder (by simpa using husr)

theorem normalize_evaluates_headerFolder :
    (Path.mk "//usr/./gcc/../include/").isAbsolute = true ∧ headerFolder.tree.LinkFree ∧
      headerFolder.node .follow ⟨"//usr/./gcc/../include/"⟩ = .ok (.folder [] .all) ∧
      headerFolder.node .follow ⟨"/usr/include"⟩ = .ok (.folder [] .all) := by
  have habsolute : (Path.mk "//usr/./gcc/../include/").isAbsolute = true := by decide
  have hhops : hops ⟨"//usr/./gcc/../include/"⟩ =
      [.name "usr", .here, .name "gcc", .up, .name "include", .slash] := by decide
  have hplace : headerFolder.place .follow ⟨"//usr/./gcc/../include/"⟩ =
      .ok ["usr", "include"] := by
    have hshort : ¬ nameLimit < "usr".utf8ByteSize ∧ ¬ nameLimit < "gcc".utf8ByteSize ∧
        ¬ nameLimit < "include".utf8ByteSize := by decide
    rw [headerFolder.place_of_isAbsolute .follow habsolute (by decide) (by decide), hhops]
    simp [placeFrom, headerFolder, Node.at?, Node.child?, Node.entries, Node.isFolder, Node.rights,
      Rights.all, List.lookup_cons, hshort]
  have hnode : headerFolder.node .follow ⟨"//usr/./gcc/../include/"⟩ = .ok (.folder [] .all) :=
    World.node_of_place hplace rfl
  obtain ⟨-, -, hdisk⟩ := (normalize_evaluates ⟨"//usr/./gcc/../include/"⟩).1 habsolute
  have hnormal := (hdisk headerFolder .follow _ linkFree_headerFolder hnode).1
  have htext : (Path.mk "//usr/./gcc/../include/").normalize = ⟨"/usr/include"⟩ := by decide
  rw [htext] at hnormal
  exact ⟨habsolute, linkFree_headerFolder, hnode, hnormal⟩

end CompileFlags.Disk
