import CompileFlags.Proofs.Disk.Places
import CompileFlags.Resolution

set_option autoImplicit false

/-!
# How a resolution ends

Two things refuse a resolution: a relative external directory, and after that a failure of the
system source. Everything else that can go wrong empties one section and leaves the others alone.
-/

namespace CompileFlags.Project

open Disk

def IsRelative (entry : String) : Prop :=
  Text.trim entry ≠ "" ∧ (Path.mk (Text.trim entry)).isAbsolute = false

def FirstRelative (entries : List String) (dir : String) : Prop :=
  ∃ before entry after, entries = before ++ entry :: after ∧ (∀ e ∈ before, ¬ IsRelative e) ∧
    IsRelative entry ∧ Text.trim entry = dir

inductive Refusal (p : Project) (system : SystemSource) (w : World) : FlagFault → Prop
  | relative {dir : String} (h : FirstRelative p.externalIncludes dir) :
      Refusal p system w (.configuration (.relativeExternal dir))
  | source {fault : FlagFault} (hnone : ∀ e ∈ p.externalIncludes, ¬ IsRelative e)
      (h : (system.includes w).value.1 = .error fault) : Refusal p system w fault

/-- One blank entry empties the section. -/
inductive ExternalSection (entries : List String) : FlagList → Prop
  | blank {entry : String} (hmem : entry ∈ entries) (h : Text.trim entry = "") :
      ExternalSection entries []
  | each (h : ∀ e ∈ entries, Text.trim e ≠ "") :
      ExternalSection entries
        (entries.map fun e => ⟨"-I", (Path.mk (Text.trim e)).normalize.text⟩)

inductive DatabaseSection (p : Project) (w : World) (file : Path) : FlagList → Prop
  | unreadable {cause : IoFault} (h : w.readBytes p.databasePath = .error cause) :
      DatabaseSection p w file []
  | notText {bytes : List UInt8} (h : w.readBytes p.databasePath = .ok bytes)
      (htext : Text.Utf8.decode? bytes = none) : DatabaseSection p w file []
  | malformed {bytes : List UInt8} {content : String} (h : w.readBytes p.databasePath = .ok bytes)
      (htext : Text.Utf8.decode? bytes = some content)
      (hentries : Database.entries? content = none) : DatabaseSection p w file []
  | loaded {bytes : List UInt8} {content : String} {entries : List Database.Entry}
      (h : w.readBytes p.databasePath = .ok bytes)
      (htext : Text.Utf8.decode? bytes = some content)
      (hentries : Database.entries? content = some entries) :
      DatabaseSection p w file
        (Database.flagsFor (Database.ofEntries w.base entries).value w file p.root).value

inductive BuildInfoSection (p : Project) (w : World) : FlagList → Prop
  | missing (h : w.isFile p.buildInfoPath = false) : BuildInfoSection p w []
  | unreadable {cause : IoFault} (hfile : w.isFile p.buildInfoPath = true)
      (h : w.readBytes p.buildInfoPath = .error cause) : BuildInfoSection p w []
  | notText {bytes : List UInt8} (hfile : w.isFile p.buildInfoPath = true)
      (h : w.readBytes p.buildInfoPath = .ok bytes) (htext : Text.Utf8.decode? bytes = none) :
      BuildInfoSection p w []
  | read {bytes : List UInt8} {content : String} (hfile : w.isFile p.buildInfoPath = true)
      (h : w.readBytes p.buildInfoPath = .ok bytes)
      (htext : Text.Utf8.decode? bytes = some content) :
      BuildInfoSection p w
        (BuildInfo.parse content (w.absolute (p.buildInfoPath.parent?.getD ⟨"."⟩)))

/-- The seven sections, in order. The last two are read after the system source has run. -/
inductive Delivery (p : Project) (system : SystemSource) (w : World) (file : Path) :
    Sections → Prop
  | mk {systemFlags external database buildInfo : FlagList} {after : World}
      (hnone : ∀ e ∈ p.externalIncludes, ¬ IsRelative e)
      (hsystem : (system.includes w).value = (.ok systemFlags, after))
      (hexternal : ExternalSection p.externalIncludes external)
      (hdatabase : DatabaseSection p after file database)
      (hbuildInfo : BuildInfoSection p after buildInfo) :
      Delivery p system w file [
        (.language, p.languageFlags),
        (.project, p.warningFlags),
        (.system, systemFlags),
        (.locals, p.localFlags),
        (.external, external),
        (.database, database),
        (.buildInfo, buildInfo)]

theorem relativeExternal?_eq (p : Project) :
    p.relativeExternal? = (p.externalIncludes.find? fun e =>
      Text.trim e != "" && !(Path.mk (Text.trim e)).isAbsolute).map Text.trim := by
  rw [relativeExternal?, externalDirs, List.find?_map]
  rfl

theorem isRelative_iff (e : String) :
    (Text.trim e != "" && !(Path.mk (Text.trim e)).isAbsolute) = true ↔ IsRelative e := by
  simp [IsRelative]

theorem relativeExternal?_eq_some_iff {p : Project} {dir : String} :
    p.relativeExternal? = some dir ↔ FirstRelative p.externalIncludes dir := by
  rw [relativeExternal?_eq, Option.map_eq_some_iff]
  constructor
  · rintro ⟨entry, hfound, hdir⟩
    obtain ⟨hentry, before, after, hsplit, hbefore⟩ := List.find?_eq_some_iff_append.1 hfound
    refine ⟨before, entry, after, hsplit, fun e he hrel => ?_, (isRelative_iff entry).1 hentry, hdir⟩
    have hnot := hbefore e he
    rw [(isRelative_iff e).2 hrel] at hnot
    contradiction
  · rintro ⟨before, entry, after, hsplit, hbefore, hentry, hdir⟩
    refine ⟨entry, List.find?_eq_some_iff_append.2 ⟨(isRelative_iff entry).2 hentry, before, after,
      hsplit, fun e he => ?_⟩, hdir⟩
    rw [Bool.not_eq_true', ← Bool.not_eq_true, isRelative_iff]
    exact hbefore e he

theorem relativeExternal?_eq_none_iff {p : Project} :
    p.relativeExternal? = none ↔ ∀ e ∈ p.externalIncludes, ¬ IsRelative e := by
  rw [relativeExternal?_eq, Option.map_eq_none_iff, List.find?_eq_none]
  simp only [isRelative_iff]

theorem externalFlags_of_relative {p : Project} {dir : String}
    (h : FirstRelative p.externalIncludes dir) :
    p.externalFlags.value = .error (.configuration (.relativeExternal dir)) := by
  simp [externalFlags, relativeExternal?_eq_some_iff.2 h]

theorem externalFlags_of_none {p : Project} (h : ∀ e ∈ p.externalIncludes, ¬ IsRelative e)
    (external : FlagList) :
    p.externalFlags.value = .ok external ↔ ExternalSection p.externalIncludes external := by
  have hvalue : p.externalFlags.value =
      if p.externalDirs.any (· == "") then .ok []
      else .ok (p.externalDirs.map fun dir => .ofInclude (Path.mk dir).normalize) := by
    rw [externalFlags, relativeExternal?_eq_none_iff.2 h]
    by_cases hany : p.externalDirs.any (· == "") = true
    · simp [hany]
    · simp [hany]
  rw [hvalue]
  by_cases hblank : ∃ e ∈ p.externalIncludes, Text.trim e = ""
  · obtain ⟨e, he, htrim⟩ := hblank
    have hany : p.externalDirs.any (· == "") = true := by
      rw [List.any_eq_true]
      exact ⟨"", List.mem_map.2 ⟨e, he, htrim⟩, rfl⟩
    rw [if_pos hany]
    constructor
    · intro heq
      cases heq
      exact .blank he htrim
    · intro hsection
      cases hsection with
      | blank => rfl
      | each hall => exact absurd htrim (hall e he)
  · have hall : ∀ e ∈ p.externalIncludes, Text.trim e ≠ "" := fun e he htrim =>
      hblank ⟨e, he, htrim⟩
    have hany : ¬ p.externalDirs.any (· == "") = true := by
      simpa [externalDirs] using hall
    rw [if_neg hany, externalDirs, List.map_map]
    constructor
    · intro heq
      cases heq
      exact .each hall
    · intro hsection
      cases hsection with
      | blank hmem htrim => exact absurd htrim (hall _ hmem)
      | each => rfl

theorem databaseFlags_of_unread {p : Project} {w : World} {cause : IoFault}
    (h : w.readText p.databasePath = .error cause) (file : Path) :
    (p.databaseFlags w file).value = [] := by
  have hread : w.readText (p.databaseDir.child Database.fileName) = .error cause := h
  rw [databaseFlags, Database.value_lookup, Database.value_load, hread]

theorem databaseFlags_of_read {p : Project} {w : World} {content : String}
    (h : w.readText p.databasePath = .ok content) (file : Path) :
    (p.databaseFlags w file).value = match Database.entries? content with
      | some entries =>
        (Database.flagsFor (Database.ofEntries w.base entries).value w file p.root).value
      | none => [] := by
  have hread : w.readText (p.databaseDir.child Database.fileName) = .ok content := h
  rw [databaseFlags, Database.value_lookup, Database.value_load, hread]
  dsimp only
  rw [Database.value_parse]
  cases Database.entries? content with
  | none => rfl
  | some entries => rfl

theorem databaseFlags_eq_iff (p : Project) (w : World) (file : Path) (flags : FlagList) :
    (p.databaseFlags w file).value = flags ↔ DatabaseSection p w file flags := by
  constructor
  · rintro rfl
    cases hbytes : w.readBytes p.databasePath with
    | error cause =>
      rw [databaseFlags_of_unread (World.readText_of_unreadable hbytes)]
      exact .unreadable hbytes
    | ok bytes =>
      cases htext : Text.Utf8.decode? bytes with
      | none =>
        rw [databaseFlags_of_unread (World.readText_of_notText hbytes htext)]
        exact .notText hbytes htext
      | some content =>
        rw [databaseFlags_of_read (World.readText_of_text hbytes htext)]
        cases hentries : Database.entries? content with
        | none => exact .malformed hbytes htext hentries
        | some entries => exact .loaded hbytes htext hentries
  · intro h
    cases h with
    | unreadable hbytes => exact databaseFlags_of_unread (World.readText_of_unreadable hbytes) file
    | notText hbytes htext => exact databaseFlags_of_unread (World.readText_of_notText hbytes htext) file
    | malformed hbytes htext hentries =>
      rw [databaseFlags_of_read (World.readText_of_text hbytes htext), hentries]
    | loaded hbytes htext hentries =>
      rw [databaseFlags_of_read (World.readText_of_text hbytes htext), hentries]

theorem buildInfoFlags_of_missing {p : Project} {w : World}
    (h : w.isFile p.buildInfoPath = false) : (p.buildInfoFlags w).value = [] := by
  simp [buildInfoFlags, BuildInfo.load, h]

theorem buildInfoFlags_of_unread {p : Project} {w : World} {cause : IoFault}
    (hfile : w.isFile p.buildInfoPath = true) (h : w.readText p.buildInfoPath = .error cause) :
    (p.buildInfoFlags w).value = [] := by
  simp [buildInfoFlags, BuildInfo.load, hfile, h]

theorem buildInfoFlags_of_read {p : Project} {w : World} {content : String}
    (hfile : w.isFile p.buildInfoPath = true) (h : w.readText p.buildInfoPath = .ok content) :
    (p.buildInfoFlags w).value =
      BuildInfo.parse content (w.absolute (p.buildInfoPath.parent?.getD ⟨"."⟩)) := by
  simp [buildInfoFlags, BuildInfo.load, hfile, h]

/-- A file without the right to read it is there all the same, and cannot be read. -/
theorem buildInfoSection_of_denied {p : Project} {w : World} {content : List UInt8}
    {rights : Rights} (hnode : w.node .follow p.buildInfoPath = .ok (.file content rights))
    (hread : rights.read = false) :
    w.isFile p.buildInfoPath = true ∧ w.readBytes p.buildInfoPath = .error .denied ∧
      BuildInfoSection p w [] := by
  have hfile : w.isFile p.buildInfoPath = true := by
    rw [World.isFile, hnode]
    rfl
  have hbytes : w.readBytes p.buildInfoPath = .error .denied := by
    rw [World.readBytes_of_node hnode, hread]
    rfl
  exact ⟨hfile, hbytes, .unreadable hfile hbytes⟩

theorem buildInfoFlags_eq_iff (p : Project) (w : World) (flags : FlagList) :
    (p.buildInfoFlags w).value = flags ↔ BuildInfoSection p w flags := by
  constructor
  · rintro rfl
    cases hfile : w.isFile p.buildInfoPath with
    | false =>
      rw [buildInfoFlags_of_missing hfile]
      exact .missing hfile
    | true =>
      cases hbytes : w.readBytes p.buildInfoPath with
      | error cause =>
        rw [buildInfoFlags_of_unread hfile (World.readText_of_unreadable hbytes)]
        exact .unreadable hfile hbytes
      | ok bytes =>
        cases htext : Text.Utf8.decode? bytes with
        | none =>
          rw [buildInfoFlags_of_unread hfile (World.readText_of_notText hbytes htext)]
          exact .notText hfile hbytes htext
        | some content =>
          rw [buildInfoFlags_of_read hfile (World.readText_of_text hbytes htext)]
          exact .read hfile hbytes htext
  · intro h
    cases h with
    | missing hfile => exact buildInfoFlags_of_missing hfile
    | unreadable hfile hbytes =>
      exact buildInfoFlags_of_unread hfile (World.readText_of_unreadable hbytes)
    | notText hfile hbytes htext =>
      exact buildInfoFlags_of_unread hfile (World.readText_of_notText hbytes htext)
    | read hfile hbytes htext =>
      exact buildInfoFlags_of_read hfile (World.readText_of_text hbytes htext)

theorem externalSection_exists (entries : List String) :
    ∃ external, ExternalSection entries external := by
  by_cases hblank : ∃ e ∈ entries, Text.trim e = ""
  · obtain ⟨e, he, htrim⟩ := hblank
    exact ⟨[], .blank he htrim⟩
  · exact ⟨_, .each fun e he htrim => hblank ⟨e, he, htrim⟩⟩

theorem refusal_or_delivery (p : Project) (system : SystemSource) (w : World) (file : Path) :
    (∃ fault, Refusal p system w fault) ∨ ∃ ss, Delivery p system w file ss := by
  cases hrelative : p.relativeExternal? with
  | some dir => exact .inl ⟨_, .relative (relativeExternal?_eq_some_iff.1 hrelative)⟩
  | none =>
    have hnone := relativeExternal?_eq_none_iff.1 hrelative
    cases hsystem : (system.includes w).value with
    | mk answer after => cases answer with
      | error fault => exact .inl ⟨fault, .source hnone (by rw [hsystem])⟩
      | ok systemFlags =>
        obtain ⟨external, hexternal⟩ := externalSection_exists p.externalIncludes
        exact .inr ⟨_, .mk hnone hsystem hexternal ((databaseFlags_eq_iff p after file _).1 rfl)
          ((buildInfoFlags_eq_iff p after _).1 rfl)⟩

theorem sections_of_refusal {p : Project} {system : SystemSource} {w : World} {fault : FlagFault}
    (h : Refusal p system w fault) (file : Path) :
    (p.sections system w file).value.1 = .error fault := by
  cases h with
  | relative hrelative => simp [sections, externalFlags_of_relative hrelative]
  | source hnone hsource =>
    obtain ⟨external, hsection⟩ := externalSection_exists p.externalIncludes
    have hexternal := (externalFlags_of_none hnone external).2 hsection
    cases hsystem : (system.includes w).value with
    | mk answer after =>
      have hanswer : answer = .error fault := by rw [hsystem] at hsource; exact hsource
      simp [sections, hexternal, hsystem, hanswer]

theorem sections_of_delivery {p : Project} {system : SystemSource} {w : World} {file : Path}
    {ss : Sections} (h : Delivery p system w file ss) :
    (p.sections system w file).value.1 = .ok ss := by
  cases h with
  | mk hnone hsystem hsection hdatabase hbuildInfo =>
    have hexternal := (externalFlags_of_none hnone _).2 hsection
    have hdb := (databaseFlags_eq_iff _ _ _ _).2 hdatabase
    have hinfo := (buildInfoFlags_eq_iff _ _ _).2 hbuildInfo
    simp [sections, hexternal, hsystem, hdb, hinfo]

theorem sections_eq_error_iff (p : Project) (system : SystemSource) (w : World) (file : Path)
    (fault : FlagFault) :
    (p.sections system w file).value.1 = .error fault ↔ Refusal p system w fault := by
  refine ⟨fun hvalue => ?_, fun h => sections_of_refusal h file⟩
  rcases refusal_or_delivery p system w file with ⟨other, h⟩ | ⟨ss, h⟩
  · rw [sections_of_refusal h file] at hvalue
    cases hvalue
    exact h
  · rw [sections_of_delivery h] at hvalue
    cases hvalue

theorem sections_eq_ok_iff (p : Project) (system : SystemSource) (w : World) (file : Path)
    (ss : Sections) :
    (p.sections system w file).value.1 = .ok ss ↔ Delivery p system w file ss := by
  refine ⟨fun hvalue => ?_, sections_of_delivery⟩
  rcases refusal_or_delivery p system w file with ⟨fault, h⟩ | ⟨other, h⟩
  · rw [sections_of_refusal h file] at hvalue
    cases hvalue
  · rw [sections_of_delivery h] at hvalue
    cases hvalue
    exact h

theorem resolve_eq_map (p : Project) (system : SystemSource) (w : World) (file : Path) :
    (p.resolve system w file).value.1 =
      (p.sections system w file).value.1.map fun ss => (ss.map Prod.snd).flatten := by
  unfold resolve
  rw [Logged.value_bind]
  cases (p.sections system w file).value with
  | mk answer after => cases answer with
    | error fault => rfl
    | ok ss =>
      simp only [Logged.value_bind, Logged.value_pure]
      rw [List.flatMap_def]
      rfl

/-- Sections and flags are refused for the same two reasons and are delivered otherwise: the seven
sections in order, and all of their flags. -/
theorem sections_resolve_outcome (p : Project) (system : SystemSource) (w : World) (file : Path) :
    (∀ fault, (p.sections system w file).value.1 = .error fault ↔ Refusal p system w fault) ∧
    (∀ ss, (p.sections system w file).value.1 = .ok ss ↔ Delivery p system w file ss) ∧
    (∀ fault, (p.resolve system w file).value.1 = .error fault ↔ Refusal p system w fault) ∧
    (∀ flags, (p.resolve system w file).value.1 = .ok flags ↔
      ∃ ss, Delivery p system w file ss ∧ flags = (ss.map Prod.snd).flatten) ∧
    (∀ dir, (FlagFault.configuration (.relativeExternal dir)).message =
      "Configuration error: Expected absolute path for external headers, got '" ++ dir ++ "'") := by
  refine ⟨sections_eq_error_iff p system w file, sections_eq_ok_iff p system w file, ?_, ?_, ?_⟩
  · intro fault
    rw [resolve_eq_map, ← sections_eq_error_iff p system w file]
    cases (p.sections system w file).value.1 with
    | error other => simp [Except.map]
    | ok ss => simp [Except.map]
  · intro flags
    rw [resolve_eq_map]
    simp only [← sections_eq_ok_iff p system w file]
    cases (p.sections system w file).value.1 with
    | error fault => simp [Except.map]
    | ok ss => simp [Except.map, eq_comm]
  · intro dir
    have htext : "Configuration error: " ++ "Expected absolute path for external headers, got '" =
        "Configuration error: Expected absolute path for external headers, got '" := by decide
    rw [← htext, String.append_assoc, String.append_assoc]
    rfl

end CompileFlags.Project
