import CompileFlags.Proofs.Database.HeaderSource
import CompileFlags.Proofs.Disk.Descent
import CompileFlags.Proofs.Disk.Walking
import CompileFlags.Proofs.Text.ByteOrder

set_option autoImplicit false

/-!
# The least source of a header

Of all files in the folders of a project that have the stem of a header and a source extension, the
one that is found is the least: folders are compared name by name and by the bytes of the names, a
folder before those in it, and in one folder the order of the extensions decides.
-/

namespace CompileFlags.Database

open Disk

abbrev Candidate := Place × Fin sourceExtensions.length

namespace Candidate

def path (root : Path) (stem : String) (c : Candidate) : Path :=
  (c.1.foldl Path.child root).child (stem ++ "." ++ sourceExtensions[c.2])

/-- No link leads to the folder from the root, and the path of the source is that of a file or of a
link to one. -/
structure Stands (w : World) (root : Path) (start : Place) (stem : String) (c : Candidate) :
    Prop where
  folder : ∃ entries rights, w.tree.at? (start ++ c.1) = some (.folder entries rights)
  file : ∃ found content rights, w.place .follow (c.path root stem) = .ok found ∧
    w.tree.at? found = some (.file content rights)

/-- Each folder on the way can be read, too. -/
structure Exists (w : World) (root : Path) (start : Place) (stem : String) (c : Candidate) : Prop
    extends c.Stands w root start stem where
  listed : ∀ front name back, c.1 = front ++ name :: back →
    w.lists (front.foldl Path.child root) = true

end Candidate

def bytesOf (names : Place) : List (List UInt8) :=
  names.map Text.Utf8.encode

namespace Candidate

def Before (a b : Candidate) : Prop :=
  bytesOf a.1 < bytesOf b.1 ∨ a.1 = b.1 ∧ a.2 < b.2

instance (a b : Candidate) : Decidable (a.Before b) :=
  inferInstanceAs (Decidable (_ ∨ _))

structure Least (w : World) (root : Path) (start : Place) (stem : String) (c : Candidate) :
    Prop where
  present : c.Exists w root start stem
  least : ∀ other : Candidate, other.Exists w root start stem → c = other ∨ c.Before other

end Candidate

/-- The folders at and below a place can be read, and their names are names of entries. -/
def Readable (tree : Node) (start : Place) : Prop :=
  ∀ names entries rights, tree.at? (start ++ names) = some (.folder entries rights) →
    rights.read = true ∧ ∀ n ∈ names, Path.IsName n

theorem bytesOf_lt_bytesOf {a b : Place} (h : a < b) : bytesOf a < bytesOf b :=
  List.map_lt (fun _ _ => Text.Utf8.encode_lt_encode) h

theorem Candidate.Before.asymm {a b : Candidate} (h : a.Before b) : ¬ b.Before a := by
  rintro (hlt | ⟨heq, hlt⟩)
  · rcases h with h | ⟨h, -⟩
    · exact List.lt_asymm h hlt
    · rw [h] at hlt
      exact List.lt_irrefl _ hlt
  · rcases h with h | ⟨-, h⟩
    · rw [heq] at h
      exact List.lt_irrefl _ h
    · exact absurd h (Fin.not_lt.2 (Fin.le_of_lt hlt))

variable {w : World} {root header : Path} {start : Place} {stem : String}
  {entries : List (String × Node)} {rights : Rights}

theorem Candidate.Least.unique {a b : Candidate} (ha : a.Least w root start stem)
    (hb : b.Least w root start stem) : a = b := by
  rcases ha.least b hb.present with h | hab
  · exact h
  · rcases hb.least a ha.present with h | hba
    · exact h.symm
    · exact absurd hba hab.asymm

theorem isFile_iff {p : Path} : w.isFile p = true ↔ ∃ found content rights,
    w.place .follow p = .ok found ∧ w.tree.at? found = some (.file content rights) := by
  constructor
  · intro h
    unfold World.isFile at h
    split at h
    · next n hnode =>
      obtain ⟨found, hplace, hat⟩ := World.place_of_node hnode
      cases n with
      | file content rights => exact ⟨found, content, rights, hplace, hat⟩
      | link | folder => cases h
    · cases h
  · rintro ⟨found, content, rights, hplace, hat⟩
    rw [World.isFile, World.node_of_place hplace hat]
    rfl

def listsBelow (w : World) (root : Path) (names : Place) : Bool :=
  w.lists (names.foldl Path.child root)

theorem searched_of_folder (hroot : w.place .keep root = .ok start)
    (hat : w.tree.at? start = some (.folder entries rights)) :
    searched w root = ((Node.folder entries rights).folders (listsBelow w root)).map fun names =>
      names.foldl Path.child root := by
  have hfollow : w.place .follow root = .ok start :=
    World.place_follow_of_keep hroot (by simp [hat])
  rw [searched, World.node_of_place hroot hat, World.node_of_place hfollow hat]
  rfl

theorem Candidate.exists_iff (hat : w.tree.at? start = some (.folder entries rights))
    {c : Candidate} : c.Exists w root start stem ↔
      c.1 ∈ (Node.folder entries rights).folders (listsBelow w root) ∧
        w.isFile (c.path root stem) = true := by
  have hbelow : w.tree.at? (start ++ c.1) = (Node.folder entries rights).at? c.1 := by
    rw [Node.at?_append, hat, Option.bind_some]
  rw [mem_folders_iff, isFile_iff]
  constructor
  · rintro ⟨⟨hfolder, hfile⟩, hlisted⟩
    rw [hbelow] at hfolder
    exact ⟨⟨hfolder, hlisted⟩, hfile⟩
  · rintro ⟨⟨hfolder, hlisted⟩, hfile⟩
    rw [← hbelow] at hfolder
    exact ⟨⟨hfolder, hfile⟩, hlisted⟩

theorem Candidate.Stands.entry (hroot : w.place .follow root = .ok start)
    (hstem : header.stem? = some stem) (hread : Readable w.tree start) {c : Candidate}
    (h : c.Stands w root start stem) :
    ((w.tree.at? (start ++ c.1 ++ [stem ++ "." ++ sourceExtensions[c.2]])).any fun n =>
      !n.isFolder) = true := by
  obtain ⟨entries, rights, hat⟩ := h.folder
  obtain ⟨found, content, given, hplace, hfile⟩ := h.file
  have hnames : ∀ n ∈ c.1 ++ [stem ++ "." ++ sourceExtensions[c.2]], Path.IsName n :=
    Path.isName_concat (hread _ entries rights hat).2
      (isName_stem_append hstem (List.getElem_mem c.2.2)).2
  have hlong : w.place .follow ((c.1 ++ [stem ++ "." ++ sourceExtensions[c.2]]).foldl Path.child
      root) = .ok found := by
    rw [List.foldl_concat]
    exact hplace
  obtain ⟨n, hn, hfolder⟩ := World.child_of_descent hroot hnames hat hlong
  rw [Node.at?_append, hat, Option.bind_some, Node.at?, Node.child?, Node.entries, hn]
  cases n with
  | file | link => rfl
  | folder below theirs => cases hfile.symm.trans (hfolder rfl)

/-- Where all folders can be read, nothing but the folder and the file counts. -/
theorem Candidate.Stands.present (hroot : w.place .keep root = .ok start)
    (hat : w.tree.at? start = some (.folder entries rights)) (hstem : header.stem? = some stem)
    (hread : Readable w.tree start) {c : Candidate} (h : c.Stands w root start stem) :
    c.Exists w root start stem := by
  refine ⟨h, fun front name back hsplit => ?_⟩
  have hfollow : w.place .follow root = .ok start :=
    World.place_follow_of_keep hroot (by simp [hat])
  obtain ⟨names, i⟩ := c
  obtain rfl : names = front ++ name :: back := hsplit
  obtain ⟨below, given, hbelow⟩ := h.folder
  obtain ⟨found, -, -, hplace, -⟩ := h.file
  have hnames : ∀ n ∈ front ++ (name :: back ++ [stem ++ "." ++ sourceExtensions[i]]),
      Path.IsName n := by
    rw [← List.append_assoc]
    exact Path.isName_concat (hread _ below given hbelow).2
      (isName_stem_append hstem (List.getElem_mem i.2)).2
  -- Something stands in the folder, so it is one.
  obtain ⟨above, theirs, habove⟩ : ∃ above theirs,
      w.tree.at? (start ++ front) = some (.folder above theirs) := by
    rw [← List.append_assoc, Node.at?_append] at hbelow
    obtain ⟨n, hn, hrest⟩ := Option.bind_eq_some_iff.1 hbelow
    obtain ⟨child, hchild, -⟩ := Option.bind_eq_some_iff.1 hrest
    cases n with
    | folder above theirs => exact ⟨above, theirs, hn⟩
    | file | link => cases isFolder_of_child? hchild
  have hfront : w.place .follow (front.foldl Path.child root) = .ok (start ++ front) := by
    have hlong : w.place .follow ((front ++ (name :: back ++
        [stem ++ "." ++ sourceExtensions[i]])).foldl Path.child root) = .ok found := by
      rw [← List.append_assoc, List.foldl_append]
      exact hplace
    exact World.place_of_descent hfollow hnames habove hlong
  rw [World.lists, World.node_of_place hfront habove]
  simp [Node.isFolder, Node.rights, (hread front above theirs habove).1]

def sourceIn? (w : World) (root : Path) (stem : String) (names : Place) : Option Path :=
  (sourceExtensions.map fun ext =>
    (names.foldl Path.child root).child (stem ++ "." ++ ext)).find? w.isFile

theorem sourceIn?_eq_some_iff {names : Place} {source : Path} :
    sourceIn? w root stem names = some source ↔
      ∃ i : Fin sourceExtensions.length, source = Candidate.path root stem (names, i) ∧
        w.isFile source = true ∧
        ∀ j : Fin sourceExtensions.length, w.isFile (Candidate.path root stem (names, j)) = true →
          i ≤ j := by
  rw [sourceIn?, List.find?_eq_some_iff_getElem]
  constructor
  · rintro ⟨hfile, i, hi, rfl, hbefore⟩
    rw [List.length_map] at hi
    refine ⟨⟨i, hi⟩, by simp [Candidate.path], hfile, fun j hj => ?_⟩
    refine Fin.le_def.2 (Nat.le_of_not_lt fun hlt => ?_)
    have hnot := hbefore j hlt
    simp only [List.getElem_map] at hnot
    rw [Candidate.path, Fin.getElem_fin] at hj
    rw [hj] at hnot
    cases hnot
  · rintro ⟨i, rfl, hfile, hleast⟩
    refine ⟨hfile, i, by simp, by simp [Candidate.path], fun j hj => ?_⟩
    have hnot : ¬ w.isFile (Candidate.path root stem (names, ⟨j, Nat.lt_trans hj i.2⟩)) = true :=
      fun hfile => absurd (hleast _ hfile) (Fin.not_le.2 hj)
    simpa [Candidate.path] using hnot

theorem isSome_sourceIn?_iff {names : Place} : (sourceIn? w root stem names).isSome = true ↔
    ∃ i, w.isFile (Candidate.path root stem (names, i)) = true := by
  rw [sourceIn?, List.find?_isSome]
  constructor
  · rintro ⟨source, hsource, hfile⟩
    obtain ⟨ext, hext, rfl⟩ := List.mem_map.1 hsource
    obtain ⟨i, hi, rfl⟩ := List.getElem_of_mem hext
    exact ⟨⟨i, hi⟩, hfile⟩
  · rintro ⟨i, hfile⟩
    exact ⟨_, List.mem_map_of_mem (List.getElem_mem i.2), hfile⟩

theorem findSome?_eq_some_iff_find? {α β : Type} {f : α → Option β} {items : List α} {b : β} :
    items.findSome? f = some b ↔
      ∃ a, items.find? (fun a => (f a).isSome) = some a ∧ f a = some b := by
  induction items with
  | nil => simp
  | cons a items ih =>
    rw [List.findSome?_cons, List.find?_cons]
    cases h : f a with
    | none => simpa using ih
    | some b' => simp [h]

theorem findSource?_eq_some_iff_find? (hroot : w.place .keep root = .ok start)
    (hat : w.tree.at? start = some (.folder entries rights)) (hstem : header.stem? = some stem)
    {source : Path} :
    findSource? w header root = some source ↔ ∃ names,
      ((Node.folder entries rights).folders (listsBelow w root)).find?
        (fun names => (sourceIn? w root stem names).isSome) = some names ∧
      sourceIn? w root stem names = some source := by
  rw [findSource?, hstem, searched_of_folder hroot hat]
  simp only [Option.bind_eq_bind, Option.bind_some, List.findSome?_map]
  exact findSome?_eq_some_iff_find?

theorem least_of_findSource? (hroot : w.place .keep root = .ok start)
    (hat : w.tree.at? start = some (.folder entries rights)) (hstem : header.stem? = some stem)
    {source : Path} (h : findSource? w header root = some source) :
    ∃ c : Candidate, c.Least w root start stem ∧ source = c.path root stem := by
  obtain ⟨names, hnames, hsource⟩ := (findSource?_eq_some_iff_find? hroot hat hstem).1 h
  obtain ⟨i, rfl, hfile, hleast⟩ := sourceIn?_eq_some_iff.1 hsource
  have hmem := List.mem_of_find?_eq_some hnames
  refine ⟨(names, i), ⟨(Candidate.exists_iff hat).2 ⟨hmem, hfile⟩, ?_⟩, rfl⟩
  rintro ⟨others, j⟩ hother
  obtain ⟨hwalked, hfile⟩ := (Candidate.exists_iff hat).1 hother
  rcases eq_or_rel_of_find? (folders_pairwise _ _) hnames hwalked
    (isSome_sourceIn?_iff.2 ⟨j, hfile⟩) with rfl | hlt
  · rcases Nat.lt_or_eq_of_le (hleast j hfile) with hlt | heq
    · exact .inr (.inr ⟨rfl, hlt⟩)
    · exact .inl (by rw [Fin.ext heq])
  · exact .inr (.inl (bytesOf_lt_bytesOf hlt))

theorem findSource?_ne_none (hroot : w.place .keep root = .ok start)
    (hat : w.tree.at? start = some (.folder entries rights)) (hstem : header.stem? = some stem)
    {c : Candidate} (h : c.Exists w root start stem) : findSource? w header root ≠ none := by
  obtain ⟨hwalked, hfile⟩ := (Candidate.exists_iff hat).1 h
  have hfind : (((Node.folder entries rights).folders (listsBelow w root)).find? fun names =>
      (sourceIn? w root stem names).isSome).isSome = true :=
    List.find?_isSome.2 ⟨c.1, hwalked, isSome_sourceIn?_iff.2 ⟨c.2, hfile⟩⟩
  obtain ⟨first, hfirst⟩ := Option.isSome_iff_exists.1 hfind
  obtain ⟨source, hsource⟩ := Option.isSome_iff_exists.1
    (@List.find?_some _ (fun names => (sourceIn? w root stem names).isSome) _ _ hfirst)
  rw [(findSource?_eq_some_iff_find? hroot hat hstem).2 ⟨first, hfirst, hsource⟩]
  exact Option.some_ne_none _

/-- In a project whose root is a folder itself, the source of a header is the least candidate, and
there is none only where there is no candidate. Where the folders can be read, the candidates are
the files in the folders that no link leads to. -/
theorem findSource?_least (hroot : w.place .keep root = .ok start)
    (hat : w.tree.at? start = some (.folder entries rights)) (hstem : header.stem? = some stem) :
    (findSource? w header root = none ↔ ∀ c : Candidate, ¬ c.Exists w root start stem) ∧
    (∀ source, findSource? w header root = some source ↔
      ∃ c : Candidate, c.Least w root start stem ∧ source = c.path root stem) ∧
    (Readable w.tree start → ∀ c : Candidate,
      c.Exists w root start stem ↔ c.Stands w root start stem) := by
  refine ⟨⟨fun hnone c hc => findSource?_ne_none hroot hat hstem hc hnone, fun hnot => ?_⟩, ?_, ?_⟩
  · cases hfound : findSource? w header root with
    | none => rfl
    | some source =>
      obtain ⟨c, hc, -⟩ := least_of_findSource? hroot hat hstem hfound
      exact absurd hc.present (hnot c)
  · intro source
    refine ⟨least_of_findSource? hroot hat hstem, ?_⟩
    rintro ⟨c, hc, rfl⟩
    obtain ⟨source, hfound⟩ := Option.ne_none_iff_exists'.1
      (findSource?_ne_none hroot hat hstem hc.present)
    obtain ⟨c', hc', hsource⟩ := least_of_findSource? hroot hat hstem hfound
    rw [hfound, hsource, hc'.unique hc]
  · exact fun hread c => ⟨fun h => h.toStands, fun h => h.present hroot hat hstem hread⟩

/-- A link to a folder comes first by name, a folder has the name of a source, and `a-b` comes before
what is in `a` where the slash is compared as a character. -/
def nestedRoot : Node :=
  .folder [
    ("a-b", .folder [("foo.cpp", .file [] .data)] .all),
    ("a", .folder [("z", .folder [("foo.c", .file [] .data)] .all)] .all),
    ("foo.cpp", .folder [] .all),
    ("0", .link ⟨"/p/a-b"⟩)] .all

def nestedSources : World where
  tree := .folder [("p", nestedRoot)] .all
  cwd := some []
  programDirs := []

theorem folders_nestedRoot :
    nestedRoot.folders (fun _ => true) = [[], ["a"], ["a", "z"], ["a-b"], ["foo.cpp"]] := by
  have hless : "a" ≤ "a-b" ∧ "a" ≤ "foo.cpp" ∧ "a-b" ≤ "foo.cpp" ∧ ¬ "foo.cpp" ≤ "0" ∧
      ¬ "a" ≤ "0" ∧ ¬ "a-b" ≤ "a" ∧ ¬ "a-b" ≤ "0" := by decide
  simp [nestedRoot, Node.folders, foldersBelow, List.mergeSort,
    List.MergeSort.Internal.splitInTwo, byName, hless]

theorem mem_of_folder_nestedSources {names : Place} {entries : List (String × Node)}
    {rights : Rights} (h : nestedSources.tree.at? (["p"] ++ names) = some (.folder entries rights)) :
    names ∈ [[], ["a"], ["a", "z"], ["a-b"], ["foo.cpp"]] := by
  rw [← folders_nestedRoot, mem_folders_iff]
  exact ⟨⟨entries, rights, h⟩, fun _ _ _ _ => rfl⟩

theorem readable_nestedSources : Readable nestedSources.tree ["p"] := by
  intro names entries rights hat
  have hmem := mem_of_folder_nestedSources hat
  have hread : ∀ names ∈ [[], ["a"], ["a", "z"], ["a-b"], ["foo.cpp"]],
      ((nestedSources.tree.at? (["p"] ++ names)).all fun n => n.rights.read) = true ∧
        ∀ n ∈ names, Path.IsName n := by
    decide +kernel
  obtain ⟨hall, hnames⟩ := hread names hmem
  rw [hat] at hall
  exact ⟨hall, hnames⟩

def leastNested : Candidate := (["a", "z"], ⟨4, by decide⟩)

theorem stands_leastNested : leastNested.Stands nestedSources ⟨"/p"⟩ ["p"] "foo" := by
  have hpath : leastNested.path ⟨"/p"⟩ "foo" = Path.ofNames ["p", "a", "z", "foo.c"] := by
    decide +kernel
  refine ⟨⟨_, _, rfl⟩, ["p", "a", "z", "foo.c"], [], .data, ?_, rfl⟩
  rw [hpath]
  exact place_ofNames .follow (by decide) (by simp) rfl (by simp)

theorem before_of_stands_nestedSources {other : Candidate}
    (h : other.Stands nestedSources ⟨"/p"⟩ ["p"] "foo") :
    leastNested = other ∨ leastNested.Before other := by
  have hroot : nestedSources.place .follow (Path.ofNames ["p"]) = .ok ["p"] :=
    place_ofNames .follow (by decide) (by simp) rfl (by simp [nestedRoot])
  have hstem : Path.stem? ⟨"/p/x/foo.h"⟩ = some "foo" := by decide
  have hleast : ∀ names ∈ [[], ["a"], ["a", "z"], ["a-b"], ["foo.cpp"]],
      ∀ i : Fin sourceExtensions.length,
      ((nestedSources.tree.at? (["p"] ++ names ++ ["foo" ++ "." ++ sourceExtensions[i]])).any
        fun n => !n.isFolder) = true → leastNested = (names, i) ∨ leastNested.Before (names, i) := by
    decide +kernel
  obtain ⟨entries, rights, hat⟩ := h.folder
  exact hleast other.1 (mem_of_folder_nestedSources hat) other.2
    (h.entry hroot hstem readable_nestedSources)

theorem findSource?_nestedSources :
    nestedSources.place .keep ⟨"/p"⟩ = .ok ["p"] ∧ Path.stem? ⟨"/p/x/foo.h"⟩ = some "foo" ∧
    Readable nestedSources.tree ["p"] ∧
    findSource? nestedSources ⟨"/p/x/foo.h"⟩ ⟨"/p"⟩ = some ⟨"/p/a/z/foo.c"⟩ := by
  have hroot : nestedSources.place .keep (Path.ofNames ["p"]) = .ok ["p"] :=
    place_ofNames .keep (by decide) (by simp) rfl (by simp [nestedRoot])
  have hstem : Path.stem? ⟨"/p/x/foo.h"⟩ = some "foo" := by decide
  obtain ⟨-, hsource, hexists⟩ := findSource?_least hroot rfl hstem
  have hleast : leastNested.Least nestedSources ⟨"/p"⟩ ["p"] "foo" :=
    ⟨(hexists readable_nestedSources leastNested).2 stands_leastNested, fun other hother =>
      before_of_stands_nestedSources ((hexists readable_nestedSources other).1 hother)⟩
  exact ⟨hroot, hstem, readable_nestedSources,
    (hsource ⟨"/p/a/z/foo.c"⟩).2 ⟨leastNested, hleast, by decide⟩⟩

end CompileFlags.Database
