import CompileFlags.Proofs.Config.Directories
import CompileFlags.Proofs.Database.FirstEntry
import CompileFlags.Proofs.Database.Includes
import CompileFlags.Proofs.Resolution.Outcome

set_option autoImplicit false

namespace CompileFlags

open Disk Database

/-- A source whose lists are read from the output of some run of the compiler. -/
def SystemSource.IsProbe (system : SystemSource) (probe : Probe) : Prop :=
  ∀ (w after : World) (flags : FlagList), (system.includes w).value = (.ok flags, after) →
    ∃ (answer : Answer) (cwd : Path) (dirs : List Path), cwd.isAbsolute = true ∧
      probe.read answer (.ok cwd) = .ok dirs ∧ flags = dirs.map .ofSystemInclude

def Project.Recorded (p : Project) (w : World) (argv : List String) : Prop :=
  ∃ (bytes : List UInt8) (content : String) (entries : List Entry) (e : Entry),
    w.readBytes p.databasePath = .ok bytes ∧ Text.Utf8.decode? bytes = some content ∧
    entries? content = some entries ∧ e ∈ entries ∧ e.Argv argv

theorem ofProbe_isProbe (start : Launcher) (probe : Probe) :
    (SystemSource.ofProbe start probe).IsProbe probe := by
  intro w after flags h
  change (probe.includes start w).value = (.ok flags, after) at h
  rw [Probe.value_includes] at h
  generalize start w probe.frontend probe.args = run at h
  obtain ⟨answer, left⟩ := run
  obtain ⟨hflags, -⟩ := Prod.mk.inj h
  cases hread : probe.read answer left.currentDir with
  | error fault =>
    rw [hread] at hflags
    cases hflags
  | ok dirs =>
    rw [hread] at hflags
    cases hcwd : left.currentDir with
    | error cause =>
      rw [hcwd] at hread
      cases answer <;> simp [Probe.read] at hread
    | ok cwd =>
      rw [hcwd] at hread
      exact ⟨answer, cwd, dirs, World.isAbsolute_of_currentDir hcwd, hread,
        (Except.ok.inj hflags).symm⟩

theorem parse?_isCanonical {output : String} {cwd : Path} (h : cwd.isAbsolute = true)
    {dirs : List Path} (hdirs : SearchList.parse? output cwd = some dirs) :
    ∀ dir ∈ dirs, dir.IsCanonical := by
  obtain ⟨body, -, rfl⟩ := Option.map_eq_some_iff.1 hdirs
  intro dir hdir
  obtain ⟨line, -, rfl⟩ := List.mem_map.1 hdir
  exact Path.absolutize_isCanonical h _

theorem probe_absoluteIncludes {probe : Probe} {answer : Answer} {cwd : Path}
    (h : cwd.isAbsolute = true) {dirs : List Path}
    (hread : probe.read answer (.ok cwd) = .ok dirs) :
    AbsoluteIncludes (dirs.map .ofSystemInclude) := by
  cases answer with
  | error cause => simp [Probe.read] at hread
  | ok printed =>
    obtain ⟨output, errors⟩ := printed
    cases hparse : SearchList.parse?
        (Text.Utf8.decodeLossy output ++ Text.Utf8.decodeLossy errors) cwd with
    | none => simp [Probe.read, hparse] at hread
    | some found =>
      have hfound : found = dirs := by simpa [Probe.read, hparse] using hread
      subst hfound
      exact absoluteIncludes_map "-isystem" id (parse?_isCanonical h hparse)

theorem ofSettings_root_isCanonical {base root : Path} (h : base.isAbsolute = true) {s : Settings}
    {p : Project} (hp : Project.ofSettings base s root = .ok p) : p.root.IsCanonical :=
  (Project.ofSettings_isPlaced h hp).root

theorem localFlags_absoluteIncludes {p : Project} (h : p.root.isAbsolute = true) :
    AbsoluteIncludes p.localFlags :=
  absoluteIncludes_map "-I" (fun dir => p.root.absolutize ⟨dir⟩) fun dir _ =>
    Path.absolutize_isCanonical h ⟨dir⟩

theorem external_absoluteIncludes {entries : List String}
    (hnone : ∀ e ∈ entries, ¬ Project.IsRelative e) {external : FlagList}
    (h : Project.ExternalSection entries external) : AbsoluteIncludes external := by
  cases h with
  | blank => simp [AbsoluteIncludes]
  | each hall =>
    refine absoluteIncludes_map "-I" (fun e => (Path.mk (Text.trim e)).normalize) fun e he => ?_
    apply Path.normalize_isCanonical
    by_cases habsolute : (Path.mk (Text.trim e)).isAbsolute = true
    · exact habsolute
    · exact absurd ⟨hall e he, Bool.eq_false_iff.2 habsolute⟩ (hnone e he)

theorem flagsFrom_absoluteIncludes {base : Path} (h : base.isAbsolute = true)
    (at_ : BuildInfo.Section) (lines : List (List Char)) :
    AbsoluteIncludes (BuildInfo.flagsFrom base at_ lines) := by
  induction lines generalizing at_ with
  | nil => simp [AbsoluteIncludes, BuildInfo.flagsFrom]
  | cons line lines ih =>
    unfold BuildInfo.flagsFrom
    split
    · exact ih at_
    · split
      · exact ih _
      · cases at_ with
        | includeDirs =>
          exact absoluteIncludes_cons (fun _ => Path.absolutize_isCanonical h _) (ih _)
        | defines =>
          refine absoluteIncludes_cons (fun hmem => ?_) (ih _)
          exact absurd hmem (by simp [Flag.ofDefine, includeSwitches])
        | other => exact ih _

theorem buildInfo_absoluteIncludes {p : Project} {w : World} {flags : FlagList}
    (h : p.BuildInfoSection w flags) : AbsoluteIncludes flags := by
  cases h with
  | missing | unreadable | notText => simp [AbsoluteIncludes]
  | read =>
    exact flagsFrom_absoluteIncludes
      (w.absolute_isCanonical _).isAbsolute _ _

theorem flagsFor_ofEntries (base : Path) (entries : List Entry) (w : World) (file root : Path) :
    (flagsFor (ofEntries base entries).value w file root).value = [] ∨
      ∃ e ∈ entries, ∃ argv, e.Argv argv ∧
        (flagsFor (ofEntries base entries).value w file root).value =
          flagsOfCommand argv (e.key base) (e.workDir base) := by
  rw [value_flagsFor]
  split
  · exact .inl rfl
  · generalize (lookupKey w file root).value = q
    have hfirst := findSome?_answer?_eq_iff.1 (find?_ofEntries base q entries).symm
    cases hfound : find? (ofEntries base entries).value q with
    | none => exact .inl rfl
    | some flags =>
      rw [hfound] at hfirst
      cases hfirst with
      | @some before after e argv hsplit hbefore hrecords hargv =>
        exact .inr ⟨e, by simp [hsplit], argv, hargv, rfl⟩

theorem database_sound {p : Project} {w : World} {file : Path} {flags : FlagList}
    (h : p.DatabaseSection w file flags) :
    Unjoined flags ∧ ∃ front lone, flags = front ++ lone ∧ AbsoluteIncludes front ∧
      LoneSwitch lone ∧
      ∀ f ∈ lone, ∃ argv, p.Recorded w argv ∧ argv.getLast? = some f.switch := by
  have hnil : Unjoined [] ∧ ∃ front lone : FlagList, [] = front ++ lone ∧
      AbsoluteIncludes front ∧ LoneSwitch lone ∧
      ∀ f ∈ lone, ∃ argv, p.Recorded w argv ∧ argv.getLast? = some f.switch :=
    ⟨by simp [Unjoined], [], [], rfl, by simp [AbsoluteIncludes], .none, by simp⟩
  cases h with
  | unreadable | notText | malformed => exact hnil
  | @loaded bytes content entries hbytes htext hentries =>
    rcases flagsFor_ofEntries w.base entries w file p.root with hempty | ⟨e, he, argv, hargv, hflags⟩
    · rw [hempty]
      exact hnil
    · rw [hflags]
      have hdir : (e.workDir w.base).isAbsolute = true :=
        (w.absolute_isCanonical _).isAbsolute
      obtain ⟨hunjoined, front, lone, hsplit, hfront, hlone, hlast⟩ :=
        flagsOfCommand_sound argv (e.key w.base) hdir
      exact ⟨hunjoined, front, lone, hsplit, hfront, hlone, fun f hf =>
        ⟨argv, ⟨bytes, content, entries, e, hbytes, htext, hentries, he, hargv⟩, hlast f hf⟩⟩

def loneText : String := "[[\"/\",\"a.c\",[\"cc\",\"-Iinc\",\"-I\"]]]"

def loneEntry : Entry := ⟨"/", "a.c", some ["cc", "-Iinc", "-I"], none⟩

def loneWorld : World where
  tree := .folder [(fileName, .file (loneText.toList.map fun c => UInt8.ofNat c.toNat) .data)] .all
  cwd := some []
  programDirs := []

def loneSettings : Settings where
  paths := { buildInfoDir := "." }

def loneProject : Project where
  root := ⟨"/"⟩
  language := .cpp
  dialect := .gnu
  version := "1z"
  frontend := "avr-gcc"
  warnings := loneSettings.flags.warnings
  localIncludes := ["include"]
  externalIncludes := []
  buildInfoDir := ⟨"/"⟩
  databaseDir := ⟨"/"⟩

def listOutput : String :=
  "#include <...> search starts here:\n /usr/include\nEnd of search list.\n"

/-- A compiler that prints its search list beside the text that it has preprocessed. -/
def listCompiler : Launcher := fun w name _ =>
  if name = "avr-gcc" then (.ok ([], listOutput.toList.map fun c => UInt8.ofNat c.toNat), w)
  else (.error .notFound, w)

theorem includes_listCompiler {probe : Probe} (hname : probe.frontend = "avr-gcc") {w : World}
    (hcwd : w.currentDir = .ok ⟨"/"⟩) :
    (probe.includes listCompiler w).value = (.ok [.ofSystemInclude ⟨"/usr/include"⟩], w) := by
  have houtput : Text.Utf8.decodeLossy (listOutput.toList.map fun c => UInt8.ofNat c.toNat) =
      listOutput := Text.Utf8.decodeLossy_ascii (by decide)
  have hempty : Text.Utf8.decodeLossy [] = "" :=
    Text.Utf8.decodeLossy_ascii (s := "") rfl
  have hparse : SearchList.parse? listOutput ⟨"/"⟩ = some [⟨"/usr/include"⟩] := by decide
  rw [Probe.value_includes, listCompiler, if_pos hname]
  simp only [Probe.read, hcwd, houtput, hempty, String.empty_append, hparse]
  rfl

theorem ofSettings_lone : Project.ofSettings ⟨"/"⟩ loneSettings ⟨"."⟩ = .ok loneProject := by
  decide

theorem entries?_lone : entries? loneText = some [loneEntry] := by
  have hchars : loneText.toList = ['[', '[', '"', '/', '"', ',', '"', 'a', '.', 'c', '"', ',', '[',
      '"', 'c', 'c', '"', ',', '"', '-', 'I', 'i', 'n', 'c', '"', ',', '"', '-', 'I', '"', ']', ']',
      ']'] := by
    decide
  have htokens : Json.tokens? loneText.toList = some [.openArray,
      .openArray, .scalar (.string (some "/")), .comma, .scalar (.string (some "a.c")), .comma,
      .openArray, .scalar (.string (some "cc")), .comma, .scalar (.string (some "-Iinc")), .comma,
      .scalar (.string (some "-I")), .closeArray, .closeArray, .closeArray] := by
    rw [hchars]
    simp [Json.tokens?, Json.tokensFrom, Json.tokensFrom.start, Json.isSpace, Json.mark?,
      Json.Piece.chars?]
  rw [entries?, Json.parse?, htokens]
  rfl

theorem databaseSection_lone :
    loneProject.DatabaseSection loneWorld ⟨"/a.c"⟩ [⟨"-I", "/inc"⟩, ⟨"-I", ""⟩] := by
  have hpath : loneProject.databasePath = Path.ofNames [fileName] := by decide
  have hbytes : loneWorld.readBytes loneProject.databasePath =
      .ok (loneText.toList.map fun c => UInt8.ofNat c.toNat) := by
    rw [hpath]
    exact readBytes_ofNames (by decide) (by simp) rfl rfl
  have hdecode : Text.Utf8.decode? (loneText.toList.map fun c => UInt8.ofNat c.toNat) =
      some loneText := Text.Utf8.decode?_ascii (by decide)
  have hflags : (flagsFor (ofEntries loneWorld.base [loneEntry]).value loneWorld ⟨"/a.c"⟩
      loneProject.root).value = [⟨"-I", "/inc"⟩, ⟨"-I", ""⟩] := by decide
  rw [← hflags]
  exact .loaded hbytes hdecode entries?_lone

theorem buildInfoSection_lone : loneProject.BuildInfoSection loneWorld [] := by
  have hpath : loneProject.buildInfoPath = Path.ofNames [BuildInfo.fileName] := by decide
  have hfile : loneWorld.isFile loneProject.buildInfoPath = false := by
    rw [hpath, World.isFile, node_of_missing (by decide) ⟨rfl, .inl rfl⟩ rfl]
  exact .missing hfile

/-- Five sections have canonical include directories, whatever their sources say. The database
section has them up to an include switch that ends a recorded command and the section. -/
theorem sections_absoluteIncludes {base root : Path} {s : Settings} {p : Project}
    (hbase : base.isAbsolute = true) (hp : Project.ofSettings base s root = .ok p) :
    (∀ start, (SystemSource.ofProbe start p.probe).IsProbe p.probe) ∧
    ∀ (system : SystemSource) (w : World) (file : Path) (ss : Sections), system.IsProbe p.probe →
      (p.sections system w file).value.1 = .ok ss →
      (∀ source flags, (source, flags) ∈ ss →
        source ∈ [Source.system, .locals, .external, .buildInfo] → AbsoluteIncludes flags) ∧
      ∀ flags, (.database, flags) ∈ ss →
        Unjoined flags ∧ ∃ front lone, flags = front ++ lone ∧ AbsoluteIncludes front ∧
          LoneSwitch lone ∧ ∀ f ∈ lone, ∃ argv,
            p.Recorded (system.includes w).value.2 argv ∧ argv.getLast? = some f.switch := by
  refine ⟨fun start => ofProbe_isProbe start p.probe, ?_⟩
  intro system w file ss hprobe hss
  have hroot := (ofSettings_root_isCanonical hbase hp).isAbsolute
  have hdelivery := (Project.sections_eq_ok_iff p system w file ss).1 hss
  cases hdelivery with
  | @mk systemFlags external database buildInfo after hnone hsystem hexternal hdatabase hbuildInfo =>
    constructor
    · intro source flags hmem hsource
      simp only [List.mem_cons, Prod.mk.injEq, List.not_mem_nil, or_false] at hmem
      rcases hmem with ⟨rfl, rfl⟩ | ⟨rfl, rfl⟩ | ⟨rfl, rfl⟩ | ⟨rfl, rfl⟩ | ⟨rfl, rfl⟩ | ⟨rfl, rfl⟩ |
        ⟨rfl, rfl⟩
      · simp at hsource
      · simp at hsource
      · obtain ⟨answer, cwd, dirs, hcwd, hread, hflags⟩ := hprobe w after _ hsystem
        rw [hflags]
        exact probe_absoluteIncludes hcwd hread
      · exact localFlags_absoluteIncludes hroot
      · exact external_absoluteIncludes hnone hexternal
      · simp at hsource
      · exact buildInfo_absoluteIncludes hbuildInfo
    · intro flags hmem
      have hflags : flags = database := by simpa using hmem
      rw [hflags, hsystem]
      exact database_sound hdatabase

theorem sections_absoluteIncludes_lone :
    (Path.mk "/").isAbsolute = true ∧
    Project.ofSettings ⟨"/"⟩ loneSettings ⟨"."⟩ = .ok loneProject ∧
    ∃ ss, (loneProject.sections (.ofProbe listCompiler loneProject.probe) loneWorld
        ⟨"/a.c"⟩).value.1 = .ok ss ∧
      (.system, [⟨"-isystem", "/usr/include"⟩]) ∈ ss ∧
      AbsoluteIncludes [⟨"-isystem", "/usr/include"⟩] ∧
      (.database, [⟨"-I", "/inc"⟩, ⟨"-I", ""⟩]) ∈ ss ∧
      ∃ argv, loneProject.Recorded loneWorld argv ∧ argv.getLast? = some "-I" := by
  have hbase : (Path.mk "/").isAbsolute = true := by decide
  have hsystem : ((SystemSource.ofProbe listCompiler loneProject.probe).includes loneWorld).value =
      (.ok [⟨"-isystem", "/usr/include"⟩], loneWorld) :=
    includes_listCompiler rfl (by decide)
  have hss := (Project.sections_eq_ok_iff loneProject (.ofProbe listCompiler loneProject.probe)
    loneWorld ⟨"/a.c"⟩ _).2 (.mk (by simp [loneProject]) hsystem (.each (by simp [loneProject]))
      databaseSection_lone buildInfoSection_lone)
  obtain ⟨hprobe, hall⟩ := sections_absoluteIncludes hbase ofSettings_lone
  obtain ⟨hfive, hdatabase⟩ := hall _ _ _ _ (hprobe listCompiler) hss
  have hsystemFlags := hfive .system [⟨"-isystem", "/usr/include"⟩] (by simp) (by simp)
  obtain ⟨-, front, lone, hsplit, hfront, -, hrecorded⟩ :=
    hdatabase [⟨"-I", "/inc"⟩, ⟨"-I", ""⟩] (by simp)
  have hmem : (⟨"-I", ""⟩ : Flag) ∈ lone := by
    have hboth : (⟨"-I", ""⟩ : Flag) ∈ front ++ lone := by simp [← hsplit]
    refine (List.mem_append.1 hboth).resolve_left fun hmem => ?_
    have habsolute := (hfront _ hmem (by decide)).isAbsolute
    revert habsolute
    decide
  obtain ⟨argv, hargv, hlast⟩ := hrecorded _ hmem
  rw [hsystem] at hargv
  exact ⟨hbase, ofSettings_lone, _, hss, by simp, hsystemFlags, by simp, argv, hargv, hlast⟩

end CompileFlags
