import CompileFlags.Proofs.Config.Loading
import CompileFlags.Proofs.Database.HeaderSource
import CompileFlags.Proofs.Resolution.Outcome

set_option autoImplicit false

namespace CompileFlags

open Disk

variable {w v : World}

namespace Database

def Placed (entries : List Entry) : Prop :=
  ∀ e ∈ entries, (Path.mk e.directory).isAbsolute = true

theorem workDir_eq {e : Entry} (h : (Path.mk e.directory).isAbsolute = true) (base other : Path) :
    e.workDir base = e.workDir other := by
  rw [Entry.workDir, Entry.workDir, Path.absolutize_of_isAbsolute h,
    Path.absolutize_of_isAbsolute h]

theorem addEntry_eq {e : Entry} (h : (Path.mk e.directory).isAbsolute = true) (base other : Path)
    (db : Database) : addEntry base db e = addEntry other db e := by
  simp only [addEntry, Entry.flags?, Entry.key, workDir_eq h base other]

theorem foldlM_addEntry_eq {entries : List Entry} (h : Placed entries) (base other : Path)
    (db : Database) :
    entries.foldlM (addEntry base) db = entries.foldlM (addEntry other) db := by
  induction entries generalizing db with
  | nil => rw [List.foldlM_nil, List.foldlM_nil]
  | cons e entries ih =>
    have hrest : Placed entries := fun d hd => h d (List.mem_cons_of_mem e hd)
    rw [List.foldlM_cons, List.foldlM_cons, addEntry_eq (h e (by simp)) base other]
    exact congrArg _ (funext fun next => ih hrest next)

theorem parse_eq {content : String} (h : ∀ entries, entries? content = some entries → Placed entries)
    (base other : Path) : parse base content = parse other content := by
  unfold parse
  cases hentries : entries? content with
  | none => rfl
  | some entries =>
    simp only [ofEntries, foldlM_addEntry_eq (h entries hentries) base other]

theorem searched_eq (h : w.tree = v.tree) {root : Path} (hroot : root.isAbsolute = true) :
    searched w root = searched v root := by
  have hlists : (fun names : Place => w.lists (names.foldl Path.child root)) =
      fun names : Place => v.lists (names.foldl Path.child root) :=
    funext fun names => World.lists_eq h (Path.isAbsolute_foldl_child hroot names)
  simp only [searched, World.node_eq h hroot, hlists]

theorem findSource?_eq (h : w.tree = v.tree) (header : Path) {root : Path}
    (hroot : root.isAbsolute = true) : findSource? w header root = findSource? v header root := by
  unfold findSource?
  refine congrArg _ (funext fun stem => ?_)
  rw [searched_eq h hroot]
  have hhere : ∀ folder ∈ searched v root,
      (sourceExtensions.map fun ext => folder.child (stem ++ "." ++ ext)).find? w.isFile =
        (sourceExtensions.map fun ext => folder.child (stem ++ "." ++ ext)).find? v.isFile := by
    intro folder hfolder
    simp only [List.find?_map, Function.comp_def]
    have hfile : (fun ext => w.isFile (folder.child (stem ++ "." ++ ext))) =
        fun ext => v.isFile (folder.child (stem ++ "." ++ ext)) :=
      funext fun ext => World.isFile_eq h
        (Path.isAbsolute_child (isAbsolute_of_mem_searched hroot hfolder) _)
    rw [hfile]
  simpa only [List.findSome?_map, Function.id_comp] using
    congrArg (List.findSome? id) (List.map_congr_left hhere)

theorem lookupKey_eq (h : w.tree = v.tree) {file root : Path} (hfile : file.isAbsolute = true)
    (hroot : root.isAbsolute = true) : lookupKey w file root = lookupKey v file root := by
  simp only [lookupKey, World.absolute_eq w v hfile, findSource?_eq h _ hroot]

theorem lookup_eq (h : w.tree = v.tree) {dir file root : Path} (hdir : dir.isAbsolute = true)
    (hfile : file.isAbsolute = true) (hroot : root.isAbsolute = true)
    (hentries : ∀ content entries, w.readText (dir.child fileName) = .ok content →
      entries? content = some entries → Placed entries) :
    lookup w dir file root = lookup v dir file root := by
  have hread := World.readText_eq h (Path.isAbsolute_child hdir fileName)
  have hload : load w dir = load v dir := by
    unfold load
    dsimp only
    rw [← hread]
    cases hcontent : w.readText (dir.child fileName) with
    | error cause => rfl
    | ok content => exact parse_eq (fun entries => hentries content entries hcontent) w.base v.base
  simp only [lookup, hload, flagsFor, lookupKey_eq h hfile hroot]

end Database

namespace Project

/-- Every entry in the database of the project says by itself where its command ran. -/
def HasPlacedEntries (p : Project) (w : World) : Prop :=
  ∀ content entries, w.readText p.databasePath = .ok content →
    Database.entries? content = some entries → Database.Placed entries

theorem databaseFlags_eq {p : Project} (hp : p.IsPlaced) (h : w.tree = v.tree) {file : Path}
    (hfile : file.isAbsolute = true) (hentries : p.HasPlacedEntries w) :
    p.databaseFlags w file = p.databaseFlags v file :=
  Database.lookup_eq h hp.databaseDir.isAbsolute hfile hp.root.isAbsolute hentries

theorem buildInfoFlags_eq {p : Project} (hp : p.IsPlaced) (h : w.tree = v.tree) :
    p.buildInfoFlags w = p.buildInfoFlags v := by
  have hpath := hp.isAbsolute_buildInfoPath
  have hdir := World.absolute_eq w v hp.buildInfoDir.isAbsolute
  simp only [buildInfoFlags, BuildInfo.load, World.isFile_eq h hpath, World.readText_eq h hpath,
    hp.parent?_buildInfoPath, Option.getD_some, hdir]

end Project

/-- The source gives one answer in both worlds and leaves the same files behind. -/
structure SystemSource.AnswersAlike (system : SystemSource) (w v : World) : Prop where
  answer : (system.includes w).value.1 = (system.includes v).value.1
  tree : (system.includes w).value.2.tree = (system.includes v).value.2.tree

namespace Project

theorem sections_answer (p : Project) (system : SystemSource) (w : World) (file : Path) :
    (p.sections system w file).value.1 = do
      let external ← p.externalFlags.value
      let systemFlags ← (system.includes w).value.1
      return [
        (.language, p.languageFlags),
        (.project, p.warningFlags),
        (.system, systemFlags),
        (.locals, p.localFlags),
        (.external, external),
        (.database, (p.databaseFlags (system.includes w).value.2 file).value),
        (.buildInfo, (p.buildInfoFlags (system.includes w).value.2).value)] := by
  rw [sections, Logged.value_bind]
  cases p.externalFlags.value with
  | error fault => rfl
  | ok external =>
    dsimp only
    rw [Logged.value_bind]
    cases (system.includes w).value with
    | mk answer after => cases answer with
      | error fault => rfl
      | ok systemFlags => rfl

theorem sections_eq {p : Project} (hp : p.IsPlaced) {system : SystemSource}
    (hsystem : system.AnswersAlike w v) {file : Path} (hfile : file.isAbsolute = true)
    (hentries : p.HasPlacedEntries (system.includes w).value.2) :
    (p.sections system w file).value.1 = (p.sections system v file).value.1 := by
  rw [sections_answer, sections_answer, databaseFlags_eq hp hsystem.tree hfile hentries,
    buildInfoFlags_eq hp hsystem.tree, hsystem.answer]

end Project

/-- The project and the sections of a file are the same from every working folder, when the paths
given are absolute and so are the directories in the database. -/
theorem load_sections_eq (h : w.tree = v.tree) {config file : Path}
    (hconfig : config.isAbsolute = true) (hfile : file.isAbsolute = true) {system : SystemSource}
    (hsystem : system.AnswersAlike w v)
    (hentries : ∀ project, Config.load w config = .ok project →
      project.HasPlacedEntries (system.includes w).value.2) :
    Config.load w config = Config.load v config ∧
    ∀ project, Config.load w config = .ok project →
      (project.sections system w file).value.1 = (project.sections system v file).value.1 ∧
      (project.resolve system w file).value.1 = (project.resolve system v file).value.1 := by
  refine ⟨Config.load_eq h hconfig, fun project hload => ?_⟩
  have hsections := Project.sections_eq (Config.isPlaced_of_load hload) hsystem hfile
    (hentries project hload)
  refine ⟨hsections, ?_⟩
  rw [Project.resolve_eq_map, Project.resolve_eq_map, hsections]

def recordTree : Node :=
  .folder [
    (Config.fileName, .file [] .data),
    ("build", .folder [(Database.fileName,
      .file (Database.fooText.toList.map fun c => UInt8.ofNat c.toNat) .data)] .all),
    ("foo.cpp", .file [] .data),
    ("src", .folder [] .all)] .all

def recordWorld (folder : Place) : World where
  tree := recordTree
  cwd := some folder
  programDirs := []

theorem load_recordWorld (folder : Place) :
    ∃ project, Config.load (recordWorld folder) (Path.ofNames [Config.fileName]) = .ok project ∧
      project.root = ⟨"/"⟩ ∧ project.externalIncludes = [] ∧
      project.databasePath = Path.ofNames ["build", Database.fileName] := by
  obtain ⟨project, hproject⟩ := Project.exists_ofSettings (s := {}) (by decide +kernel)
    (by decide +kernel) (pathOf []) (pathOf [])
  obtain ⟨hroot, hbuildInfo, hdatabase, hexternal⟩ := Project.fields_of_ofSettings hproject
  have hread : (recordWorld folder).readText (Path.ofNames [Config.fileName]) = .ok "" :=
    World.readText_of_text (readBytes_ofNames (by decide +kernel) (by simp) rfl rfl)
      (Text.Utf8.decode?_ascii (s := "") rfl)
  have hsettings : (Toml.parse? "").bind Settings.ofToml? = some {} := by decide +kernel
  have hpath : (recordWorld folder).absolute (Path.ofNames [Config.fileName]) =
      pathOf ([] ++ [Config.fileName]) := by
    rw [World.absolute_of_isAbsolute (Path.isAbsolute_ofNames _)]
    decide +kernel
  refine ⟨project, Config.load_of_readText (by simp) hread hsettings hpath hproject, ?_, hexternal,
    ?_⟩
  · rw [hroot]
    decide +kernel
  · rw [Project.databasePath, hdatabase, hbuildInfo, hroot]
    decide +kernel

theorem readText_recordWorld (folder : Place) :
    (recordWorld folder).readText (Path.ofNames ["build", Database.fileName]) =
      .ok Database.fooText :=
  World.readText_of_text (readBytes_ofNames (by decide +kernel) (by simp) rfl rfl)
    (Text.Utf8.decode?_ascii (by decide +kernel))

theorem load_sections_eq_record :
    (recordWorld []).tree = (recordWorld ["src"]).tree ∧
    (SystemSource.fixed [⟨"/lib"⟩]).AnswersAlike (recordWorld []) (recordWorld ["src"]) ∧
    ∃ project ss, project.HasPlacedEntries (recordWorld []) ∧ (.database, [.bare "-DX"]) ∈ ss ∧
      ∀ folder ∈ [[], ["src"]],
        Config.load (recordWorld folder) (Path.ofNames [Config.fileName]) = .ok project ∧
        (project.sections (.fixed [⟨"/lib"⟩]) (recordWorld folder) ⟨"/foo.cpp"⟩).value.1 =
          .ok ss := by
  have hsystem : (SystemSource.fixed [⟨"/lib"⟩]).AnswersAlike (recordWorld [])
      (recordWorld ["src"]) := ⟨rfl, rfl⟩
  obtain ⟨project, hload, hroot, hexternal, hpath⟩ := load_recordWorld []
  have hentries : project.HasPlacedEntries (recordWorld []) := by
    intro content entries hread hentries
    rw [hpath, readText_recordWorld] at hread
    cases hread
    rw [Database.entries?_fooText] at hentries
    cases hentries
    simp [Database.Placed, Database.fooRecord, Path.isAbsolute]
  have hdatabase : (project.databaseFlags (recordWorld []) ⟨"/foo.cpp"⟩).value =
      [.bare "-DX"] := by
    rw [Project.databaseFlags_of_read (by rw [hpath, readText_recordWorld]),
      Database.entries?_fooText, hroot]
    decide +kernel
  obtain ⟨ss, hfirst, hmem⟩ : ∃ ss, (project.sections (.fixed [⟨"/lib"⟩]) (recordWorld [])
      ⟨"/foo.cpp"⟩).value.1 = .ok ss ∧ (.database, [.bare "-DX"]) ∈ ss := by
    refine ⟨_, Project.sections_of_delivery (.mk (by simp [hexternal]) rfl
      (.each (by simp [hexternal])) ((Project.databaseFlags_eq_iff project _ _ _).1 hdatabase)
      ((Project.buildInfoFlags_eq_iff project _ _).1 rfl)), ?_⟩
    simp
  have htree : (recordWorld []).tree = (recordWorld ["src"]).tree := rfl
  have hfile : (Path.mk "/foo.cpp").isAbsolute = true := by decide
  obtain ⟨hsame, hboth⟩ := load_sections_eq htree (Path.isAbsolute_ofNames [Config.fileName]) hfile
    hsystem fun other hother => by
      rw [hload] at hother
      cases hother
      exact hentries
  refine ⟨htree, hsystem, project, ss, hentries, hmem, fun folder hfolder => ?_⟩
  rcases List.mem_pair.1 hfolder with rfl | rfl
  · exact ⟨hload, hfirst⟩
  · exact ⟨hsame ▸ hload, (hboth project hload).1 ▸ hfirst⟩

end CompileFlags
