import CompileFlags.Proofs.Config.Loading
import CompileFlags.Proofs.Disk.LinkFree

set_option autoImplicit false

namespace CompileFlags.Config

open Disk

variable {w v : World} {folder below : Place}

def HasFile (tree : Node) (folder : Place) : Prop :=
  ∃ content rights, tree.at? (folder ++ [fileName]) = some (.file content rights)

/-- The folder has a configuration file that can be read there and makes a project. -/
structure IsValid (w : World) (folder : Place) (settings : Settings) : Prop where
  isName : ∀ n ∈ folder, Path.IsName n
  read : ∃ content, w.readText (pathOf (folder ++ [fileName])) = .ok content ∧
    (Toml.parse? content).bind Settings.ofToml? = some settings
  valid : ∃ project, Project.ofSettings (pathOf folder) settings (pathOf folder) = .ok project

theorem find?_root (w : World) : find? w (pathOf []) =
    if w.isFile (pathOf [fileName]) then some (pathOf [fileName]) else none := by
  have hancestors : (pathOf []).ancestors = [pathOf []] := Path.ancestors_root
  have hchild : (pathOf []).child fileName = pathOf [fileName] := Path.child_ofNames (by simp) _
  rw [find?, hancestors, List.map_singleton, hchild]
  cases hfile : w.isFile (pathOf [fileName]) with
  | true => rw [List.find?_cons_of_pos hfile, if_pos rfl]
  | false => simp [hfile]

theorem find?_concat (w : World) (hfolder : ∀ n ∈ folder, Path.IsName n) {name : String}
    (hname : Path.IsName name) :
    find? w (pathOf (folder ++ [name])) =
      if w.isFile (pathOf (folder ++ [name] ++ [fileName])) then
        some (pathOf (folder ++ [name] ++ [fileName]))
      else find? w (pathOf folder) := by
  have hancestors : (pathOf (folder ++ [name])).ancestors =
      pathOf (folder ++ [name]) :: (pathOf folder).ancestors :=
    Path.ancestors_concat hfolder hname
  have hchild : (pathOf (folder ++ [name])).child fileName =
      pathOf (folder ++ [name] ++ [fileName]) :=
    Path.child_ofNames (Path.isName_concat hfolder hname) _
  rw [find?, hancestors, List.map_cons, hchild]
  cases hfile : w.isFile (pathOf (folder ++ [name] ++ [fileName])) with
  | true => rw [List.find?_cons_of_pos hfile, if_pos rfl]
  | false =>
    rw [List.find?_cons_of_neg (by rw [hfile]; exact Bool.false_ne_true), if_neg Bool.false_ne_true]
    rfl

theorem find?_append (w : World) (h : ∀ n ∈ folder ++ below, Path.IsName n)
    (hbelow : ∀ names, names ≠ [] → names <+: below →
      w.isFile (pathOf (folder ++ names ++ [fileName])) = false) :
    find? w (pathOf (folder ++ below)) = find? w (pathOf folder) := by
  induction below using List.reverseRecOn with
  | nil => rw [List.append_nil]
  | append_singleton below name ih =>
    have hfront : ∀ n ∈ folder ++ below, Path.IsName n := by
      intro n hn
      rw [← List.append_assoc] at h
      exact h n (List.mem_append_left _ hn)
    have hname : Path.IsName name := h name (by simp)
    have hlast := hbelow (below ++ [name]) (by simp) List.prefix_rfl
    rw [← List.append_assoc] at hlast ⊢
    rw [find?_concat w hfront hname, hlast, if_neg Bool.false_ne_true]
    exact ih hfront fun names hne hinit =>
      hbelow names hne (hinit.trans (List.prefix_append below [name]))

theorem find?_eq_none (w : World) (h : ∀ n ∈ folder, Path.IsName n)
    (hnone : ∀ above, above <+: folder → w.isFile (pathOf (above ++ [fileName])) = false) :
    find? w (pathOf folder) = none := by
  have hpassed : find? w (pathOf ([] ++ folder)) = find? w (pathOf []) :=
    find?_append w h fun names _ hinit => hnone names hinit
  have hroot := hnone [] List.nil_prefix
  rw [List.nil_append] at hpassed hroot
  rw [hpassed, find?_root, hroot, if_neg Bool.false_ne_true]

theorem find?_self (w : World) (h : ∀ n ∈ folder, Path.IsName n)
    (hfile : w.isFile (pathOf (folder ++ [fileName])) = true) :
    find? w (pathOf folder) = some (pathOf (folder ++ [fileName])) := by
  rcases List.eq_nil_or_concat folder with rfl | ⟨front, name, rfl⟩
  · rw [List.nil_append] at hfile ⊢
    rw [find?_root, if_pos hfile]
  · rw [List.concat_eq_append] at h hfile ⊢
    rw [find?_concat w (fun n hn => h n (List.mem_append_left _ hn)) (h name (by simp)),
      if_pos hfile]

theorem isName_file (h : ∀ n ∈ folder, Path.IsName n) : ∀ n ∈ folder ++ [fileName], Path.IsName n :=
  Path.isName_concat h (by decide)

theorem hasFile_of_isFile (hfree : w.tree.LinkFree) (h : ∀ n ∈ folder, Path.IsName n)
    (hfile : w.isFile (pathOf (folder ++ [fileName])) = true) : HasFile w.tree folder := by
  unfold World.isFile at hfile
  split at hfile
  · next n hnode =>
    have hat := at?_of_node hfree (by simp) (isName_file h) hnode
    cases n with
    | file content rights => exact ⟨content, rights, hat⟩
    | link | folder => cases hfile
  · cases hfile

theorem readText_of_place (hfree : w.tree.LinkFree) (h : ∀ n ∈ folder, Path.IsName n)
    {content : String} (hread : w.readText (pathOf (folder ++ [fileName])) = .ok content)
    (htree : v.tree = w.tree) {path : Path}
    (hpath : v.place .follow path = .ok (folder ++ [fileName])) :
    v.readText path = .ok content := by
  obtain ⟨bytes, rights, hnode, hreadable, hdecode⟩ := World.node_of_readText hread
  have hat := at?_of_node hfree (by simp) (isName_file h) hnode
  have hsame : v.node .follow path = .ok (.file bytes rights) :=
    World.node_of_place hpath (htree ▸ hat)
  refine World.readText_of_text ?_ hdecode
  rw [World.readBytes_of_node hsame, if_pos hreadable]

theorem isFile_of_not_hasFile (hfree : w.tree.LinkFree) (htree : v.tree = w.tree)
    (h : ∀ n ∈ folder, Path.IsName n) (hnone : ¬ HasFile w.tree folder) :
    v.isFile (pathOf (folder ++ [fileName])) = false := by
  apply Bool.eq_false_iff.2
  intro hfile
  rw [World.isFile_eq htree (isAbsolute_pathOf _)] at hfile
  exact hnone (hasFile_of_isFile hfree h hfile)

theorem find?_nearest (hfree : w.tree.LinkFree) (htree : v.tree = w.tree)
    (h : ∀ n ∈ folder ++ below, Path.IsName n)
    (hfile : v.isFile (pathOf (folder ++ [fileName])) = true)
    (hnearer : ∀ names, names ≠ [] → names <+: below → ¬ HasFile w.tree (folder ++ names)) :
    find? v (pathOf (folder ++ below)) = some (pathOf (folder ++ [fileName])) := by
  have hpassed : find? v (pathOf (folder ++ below)) = find? v (pathOf folder) := by
    refine find?_append v h fun names hne hinit => ?_
    have hnames : ∀ n ∈ folder ++ names, Path.IsName n := by
      intro n hn
      refine h n (List.mem_append.2 ?_)
      exact (List.mem_append.1 hn).imp_right fun hn => hinit.subset hn
    exact isFile_of_not_hasFile hfree htree hnames (hnearer names hne hinit)
  rw [hpassed, find?_self v (fun n hn => h n (List.mem_append_left _ hn)) hfile]

theorem find?_of_not_hasFile (hfree : w.tree.LinkFree) (htree : v.tree = w.tree)
    (h : ∀ n ∈ folder, Path.IsName n) (hnone : ∀ above, above <+: folder → ¬ HasFile w.tree above) :
    find? v (pathOf folder) = none := by
  refine find?_eq_none v h fun above hinit => ?_
  exact isFile_of_not_hasFile hfree htree (fun n hn => h n (hinit.subset hn)) (hnone above hinit)

theorem locate_of_find? {place : Place} {path : Path} (hcwd : w.cwd = some place)
    (h : find? w (pathOf place) = some path) : locate w none = load w path := by
  simp only [locate, World.currentDir, hcwd, h]

theorem locate_of_find?_none {place : Place} (hcwd : w.cwd = some place)
    (h : find? w (pathOf place) = none) : locate w none = .error .noConfig := by
  simp only [locate, World.currentDir, hcwd, h]

/-- The project of a folder's configuration is found from below, as far as no nearer folder has a
configuration, and under every path of the file. Without a configuration above there is none. -/
theorem locate_nearest (w : World) (hfree : w.tree.LinkFree) :
    (∀ folder settings, IsValid w folder settings → ∃ project, project.root = pathOf folder ∧
      project.buildInfoDir = (pathOf folder).absolutize ⟨settings.paths.buildInfoDir⟩ ∧
      project.databaseDir = (settings.paths.databaseDir.map fun dir =>
        (pathOf folder).absolutize ⟨dir⟩).getD project.buildInfoDir ∧
      (∀ v below, v.tree = w.tree → v.cwd = some (folder ++ below) →
        (∀ n ∈ below, Path.IsName n) →
        (∀ names, names ≠ [] → names <+: below → ¬ HasFile w.tree (folder ++ names)) →
        locate v none = .ok project) ∧
      ∀ v path, v.tree = w.tree → v.place .follow path = .ok (folder ++ [fileName]) →
        v.absolute path = pathOf (folder ++ [fileName]) → locate v (some path) = .ok project) ∧
    ∀ v folder, v.tree = w.tree → v.cwd = some folder → (∀ n ∈ folder, Path.IsName n) →
      (∀ above, above <+: folder → ¬ HasFile w.tree above) → locate v none = .error .noConfig := by
  constructor
  · rintro folder settings ⟨hname, ⟨content, hread, hsettings⟩, project, hproject⟩
    obtain ⟨hroot, hbuildInfo, hdatabase, -⟩ := Project.fields_of_ofSettings hproject
    have hfolder : (pathOf folder).IsCanonical := ⟨folder, hname, rfl⟩
    have hfile : (pathOf (folder ++ [fileName])).IsCanonical := ⟨_, isName_file hname, rfl⟩
    rw [hfolder.absolutize_eq] at hroot
    rw [hroot] at hbuildInfo hdatabase
    refine ⟨project, hroot, hbuildInfo, hdatabase, ?_, ?_⟩
    · intro v below htree hcwd hbelow hnearer
      have hall : ∀ n ∈ folder ++ below, Path.IsName n := by
        intro n hn
        exact (List.mem_append.1 hn).elim (hname n) (hbelow n)
      have hhere : v.readText (pathOf (folder ++ [fileName])) = .ok content := by
        rw [World.readText_eq htree hfile.isAbsolute, hread]
      have hfound := find?_nearest hfree htree hall (World.isFile_of_readText hhere) hnearer
      rw [locate_of_find? hcwd hfound]
      exact load_of_readText hname hhere hsettings (hfile.absolutize_eq v.base) hproject
    · intro v path htree hplace hpath
      exact load_of_readText hname (readText_of_place hfree hname hread htree hplace) hsettings
        hpath hproject
  · intro v folder htree hcwd hname hnone
    exact locate_of_find?_none hcwd (find?_of_not_hasFile hfree htree hname hnone)

/-- A project with the default settings. A folder in it is named like a configuration file. -/
def projectTree : Node :=
  .folder [
    ("proj", .folder [
      (fileName, .file [] .data),
      ("src", .folder [(fileName, .folder [] .all)] .all)] .all),
    ("other", .folder [] .all)] .all

def projectWorld (folder : Place) : World where
  tree := projectTree
  cwd := some folder
  programDirs := []

theorem linkFree_projectTree : projectTree.LinkFree := by
  have hempty : (Node.folder [] .all).LinkFree := linkFree_folder (by simp)
  have hsource : (Node.folder [(fileName, .folder [] .all)] .all).LinkFree :=
    linkFree_folder (by simpa using hempty)
  have hproject : (Node.folder [(fileName, .file [] .data),
      ("src", .folder [(fileName, .folder [] .all)] .all)] .all).LinkFree :=
    linkFree_folder (by simpa using ⟨linkFree_file [] .data, hsource⟩)
  exact linkFree_folder (by simpa using ⟨hproject, hempty⟩)

theorem isValid_project : IsValid (projectWorld []) ["proj"] {} where
  isName := by decide
  read := by
    refine ⟨"", ?_, by decide +kernel⟩
    exact World.readText_of_text (readBytes_ofNames (by decide) (by simp) rfl rfl)
      (Text.Utf8.decode?_ascii (s := "") rfl)
  valid := Project.exists_ofSettings (by decide) (by decide) _ _

theorem place_project : (projectWorld ["other"]).place .follow
    ⟨"../proj/./src/../cxflags.toml"⟩ = .ok (["proj"] ++ [fileName]) := by
  have hhops : hops ⟨"../proj/./src/../cxflags.toml"⟩ =
      [.up, .name "proj", .here, .name "src", .up, .name fileName] := by decide
  have hproj : ¬ nameLimit < "proj".utf8ByteSize := by decide
  have hsrc : ¬ nameLimit < "src".utf8ByteSize := by decide
  have hfile : ¬ nameLimit < "cxflags.toml".utf8ByteSize := by decide
  rw [World.place_of_relative _ _ rfl (by decide) (by decide) (by decide)
    (by decide), hhops]
  simp [projectWorld, projectTree, placeFrom, Node.at?, Node.child?, Node.entries, Node.isFolder,
    Node.rights, Rights.all, List.lookup_cons, fileName, hproj, hsrc, hfile]

theorem locate_nearest_project :
    (projectWorld []).tree.LinkFree ∧ IsValid (projectWorld []) ["proj"] {} ∧
    ∃ project, project.root = ⟨"/proj"⟩ ∧
      locate (projectWorld ["proj", "src"]) none = .ok project ∧
      locate (projectWorld ["other"]) (some ⟨"../proj/./src/../cxflags.toml"⟩) = .ok project ∧
      locate (projectWorld ["other"]) none = .error .noConfig := by
  obtain ⟨hproject, hnone⟩ := locate_nearest (projectWorld []) linkFree_projectTree
  obtain ⟨project, hroot, -, -, hbelow, hpath⟩ := hproject ["proj"] {} isValid_project
  refine ⟨linkFree_projectTree, isValid_project, project, hroot, ?_, ?_, ?_⟩
  · refine hbelow (projectWorld ["proj", "src"]) ["src"] rfl rfl (by decide) ?_
    intro names hne hinit
    rcases List.prefix_cons_iff.1 hinit with rfl | ⟨rest, rfl, hrest⟩
    · exact absurd rfl hne
    · rw [List.prefix_nil.1 hrest]
      rintro ⟨content, rights, hfile⟩
      cases hfile
  · exact hpath (projectWorld ["other"]) _ rfl place_project (by decide)
  · refine hnone (projectWorld ["other"]) ["other"] rfl rfl (by decide) ?_
    intro above hinit
    rcases List.prefix_cons_iff.1 hinit with rfl | ⟨rest, rfl, hrest⟩
    · rintro ⟨content, rights, hfile⟩
      cases hfile
    · rw [List.prefix_nil.1 hrest]
      rintro ⟨content, rights, hfile⟩
      cases hfile

end CompileFlags.Config
