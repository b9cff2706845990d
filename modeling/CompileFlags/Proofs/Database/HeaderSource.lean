import CompileFlags.Database.Lookup
import CompileFlags.Proofs.Disk.Places
import CompileFlags.Proofs.Path.Parents

set_option autoImplicit false

namespace CompileFlags.Database

open Disk

theorem splitName_append {stem ext : String} (hstem : stem ≠ "") (hext : '.' ∉ ext.toList) :
    Path.splitName (stem ++ "." ++ ext) = (stem, some ext) := by
  have hback : (stem ++ "." ++ ext).toList.reverse =
      ext.toList.reverse ++ '.' :: stem.toList.reverse := by
    simp
  have htake : (ext.toList.reverse ++ '.' :: stem.toList.reverse).takeWhile (· != '.') =
      ext.toList.reverse := by
    rw [List.takeWhile_append_of_pos]
    · simp
    · intro c hc
      have hne : c ≠ '.' := by
        intro heq
        exact hext (by simpa [heq] using hc)
      simpa using hne
  have hne : stem.toList.reverse.isEmpty = false := by
    simpa using hstem
  simp only [Path.splitName, hback, htake, List.drop_left, hne]
  simp

theorem stem_ne_empty {name : String} (h : name ≠ "") : (Path.splitName name).1 ≠ "" := by
  unfold Path.splitName
  dsimp only
  split
  · split
    · exact h
    · next hbefore => simpa using hbefore
  · exact h

theorem mem_of_mem_stem {name : String} {c : Char} (h : c ∈ (Path.splitName name).1.toList) :
    c ∈ name.toList := by
  unfold Path.splitName at h
  dsimp only at h
  split at h
  · next d before hdrop =>
    split at h
    · exact h
    · have hbefore : c ∈ before := by simpa using h
      have hback : c ∈ name.toList.reverse :=
        List.mem_of_mem_drop (hdrop ▸ List.mem_cons_of_mem d hbefore)
      simpa using hback
  · exact h

theorem extension?_eq {p : Path} {name : String} (h : p.fileName? = some name) :
    p.extension? = (Path.splitName name).2 := by
  rw [Path.extension?, h]
  rfl

theorem dot_not_mem_sourceExtensions : ∀ ext ∈ sourceExtensions, '.' ∉ ext.toList := by
  decide

theorem slash_not_mem_sourceExtensions : ∀ ext ∈ sourceExtensions, '/' ∉ ext.toList := by
  decide

theorem isAbsolute_of_mem_searched {w : World} {root : Path} (hroot : root.isAbsolute = true)
    {folder : Path} (h : folder ∈ searched w root) : folder.isAbsolute = true := by
  unfold searched at h
  split at h
  · obtain ⟨names, -, rfl⟩ := List.mem_map.1 h
    exact Path.isAbsolute_foldl_child hroot names
  · cases h

def IsSource (w : World) (header root source : Path) : Prop :=
  ∃ (stem : String) (folder : Path) (ext : String), header.stem? = some stem ∧
    folder ∈ searched w root ∧ ext ∈ sourceExtensions ∧
    source = folder.child (stem ++ "." ++ ext) ∧ w.isFile source = true

theorem findSource?_isSource {w : World} {header root source : Path}
    (h : findSource? w header root = some source) : IsSource w header root source := by
  unfold findSource? at h
  obtain ⟨stem, hstem, hfound⟩ := Option.bind_eq_some_iff.1 h
  obtain ⟨folder, hmem, hhere⟩ := List.exists_of_findSome?_eq_some hfound
  obtain ⟨ext, hext, hsource⟩ := List.mem_map.1 (List.mem_of_find?_eq_some hhere)
  exact ⟨stem, folder, ext, hstem, hmem, hext, hsource.symm, List.find?_some hhere⟩

/-- The search comes back with nothing only where there is nothing. -/
theorem findSource?_eq_none_iff (w : World) (header root : Path) :
    findSource? w header root = none ↔ ∀ source, ¬ IsSource w header root source := by
  constructor
  · rintro hnone source ⟨stem, folder, ext, hstem, hmem, hext, rfl, hfile⟩
    have hfolders : (searched w root).findSome? (fun folder =>
        (sourceExtensions.map fun ext => folder.child (stem ++ "." ++ ext)).find? w.isFile) =
          none := by
      rw [findSource?, hstem] at hnone
      exact hnone
    have hhere := List.findSome?_eq_none_iff.1 hfolders folder hmem
    exact List.find?_eq_none.1 hhere _ (List.mem_map_of_mem hext) hfile
  · intro h
    cases hfound : findSource? w header root with
    | none => rfl
    | some source => exact absurd (findSource?_isSource hfound) (h source)

theorem findSource?_eq_some {w : World} {header root source : Path}
    (hroot : root.isAbsolute = true) (h : findSource? w header root = some source) :
    ∃ (folder : Path) (stem ext : String), header.stem? = some stem ∧ ext ∈ sourceExtensions ∧
      folder.isAbsolute = true ∧ source = folder.child (stem ++ "." ++ ext) := by
  obtain ⟨stem, folder, ext, hstem, hmem, hext, hsource, -⟩ := findSource?_isSource h
  exact ⟨folder, stem, ext, hstem, hext, isAbsolute_of_mem_searched hroot hmem, hsource⟩

theorem isName_stem_append {header : Path} {stem ext : String} (hstem : header.stem? = some stem)
    (hext : ext ∈ sourceExtensions) : stem ≠ "" ∧ Path.IsName (stem ++ "." ++ ext) := by
  obtain ⟨name, hname, rfl⟩ := Option.map_eq_some_iff.1 hstem
  have hisName : Path.IsName name := Path.isName_of_fileName? hname
  have hne : (Path.splitName name).1 ≠ "" := stem_ne_empty hisName.1
  have hsplit := splitName_append hne (dot_not_mem_sourceExtensions ext hext)
  -- What stands for no entry has no source extension.
  have hidle : ∀ idle ∈ ["", ".", ".."], (Path.splitName name).1 ++ "." ++ ext ≠ idle := by
    intro idle hmem heq
    have hnone : ∀ n ∈ ["", ".", ".."], ∀ e ∈ sourceExtensions, (Path.splitName n).2 ≠ some e := by
      decide
    rw [heq] at hsplit
    exact hnone idle hmem ext hext (congrArg Prod.snd hsplit)
  refine ⟨hne, hidle "" (by simp), hidle "." (by simp), hidle ".." (by simp), ?_⟩
  intro hslash
  simp only [String.toList_append, List.mem_append] at hslash
  rcases hslash with (hslash | hslash) | hslash
  · exact hisName.2.2.2 (mem_of_mem_stem hslash)
  · simp at hslash
  · exact slash_not_mem_sourceExtensions ext hext hslash

theorem source_not_isHeader {w : World} {header root source : Path}
    (hroot : root.isAbsolute = true) (h : findSource? w header root = some source) :
    source.isAbsolute = true ∧ isHeader source.normalize = false := by
  obtain ⟨folder, stem, ext, hstem, hext, hfolder, rfl⟩ := findSource?_eq_some hroot h
  obtain ⟨hne, hname⟩ := isName_stem_append hstem hext
  refine ⟨Path.isAbsolute_child hfolder _, ?_⟩
  have hextension : (folder.child (stem ++ "." ++ ext)).normalize.extension? = some ext := by
    rw [extension?_eq (Path.fileName?_normalize_child hfolder hname),
      splitName_append hne (dot_not_mem_sourceExtensions ext hext)]
  rw [isHeader, hextension]
  apply Bool.eq_false_iff.2
  intro hcontains
  have hheader : ext ∈ headerExtensions := by simpa using hcontains
  exact headerExtensions_disjoint_sourceExtensions ext hheader hext

theorem lookupKey_of_not_isHeader {w : World} {file : Path}
    (h : isHeader (w.absolute file) = false) (root : Path) :
    (lookupKey w file root).value = w.absolute file := by
  rw [value_lookupKey, h]
  rfl

theorem lookupKey_of_findSource? {w : World} {header root source : Path}
    (hheader : isHeader (w.absolute header) = true)
    (h : findSource? w (w.absolute header) root = some source) :
    (lookupKey w header root).value = source.normalize := by
  rw [value_lookupKey, if_pos hheader, h]

theorem lookupKey_of_findSource?_none {w : World} {file root : Path}
    (h : findSource? w (w.absolute file) root = none) :
    (lookupKey w file root).value = w.absolute file := by
  rw [value_lookupKey, h]
  split <;> rfl

theorem lookupKey_source {w : World} {header root source : Path} (hroot : root.isAbsolute = true)
    (h : findSource? w header root = some source) :
    (lookupKey w source root).value = source.normalize := by
  obtain ⟨habsolute, hsource⟩ := source_not_isHeader hroot h
  have hsame : w.absolute source = source.normalize := World.absolute_of_isAbsolute habsolute
  rw [lookupKey_of_not_isHeader (by rw [hsame]; exact hsource), hsame]

/-- The key of a file is the canonical path of a file that is its own key. -/
theorem lookupKey_idempotent (w : World) {root : Path} (hroot : root.isAbsolute = true)
    (file : Path) :
    (lookupKey w (lookupKey w file root).value root).value = (lookupKey w file root).value := by
  by_cases hheader : isHeader (w.absolute file) = true
  · cases hfound : findSource? w (w.absolute file) root with
    | some source =>
      obtain ⟨habsolute, hsource⟩ := source_not_isHeader hroot hfound
      have hfixed : w.absolute source.normalize = source.normalize :=
        (Path.normalize_isCanonical habsolute).absolutize_eq w.base
      rw [lookupKey_of_findSource? hheader hfound,
        lookupKey_of_not_isHeader (by rw [hfixed]; exact hsource), hfixed]
    | none =>
      have hfixed : w.absolute (w.absolute file) = w.absolute file :=
        (w.absolute_isCanonical file).absolutize_eq w.base
      rw [lookupKey_of_findSource?_none hfound,
        lookupKey_of_findSource?_none (by rw [hfixed]; exact hfound), hfixed]
  · have hplain : isHeader (w.absolute file) = false := Bool.eq_false_iff.2 hheader
    have hfixed : w.absolute (w.absolute file) = w.absolute file :=
      (w.absolute_isCanonical file).absolutize_eq w.base
    rw [lookupKey_of_not_isHeader hplain, lookupKey_of_not_isHeader (by rw [hfixed]; exact hplain),
      hfixed]

def recordOf (w : World) (dir file : Path) : FlagList :=
  match (load w dir).value with
  | .ok db => (db.find? (w.absolute file)).getD []
  | .error _ => []

/-- Two files with one key have one answer, unless one of them is the empty path. -/
theorem lookup_eq_of_lookupKey_eq {w : World} {file other root : Path}
    (h : (lookupKey w file root).value = (lookupKey w other root).value)
    (hother : other.isEmpty = false) (dir : Path) :
    (lookup w dir file root).value =
      if file.isEmpty then [] else (lookup w dir other root).value := by
  rw [value_lookup, value_lookup]
  cases (load w dir).value with
  | ok db =>
    dsimp only
    rw [value_flagsFor, value_flagsFor, h, hother]
    rfl
  | error fault => simp

theorem lookup_of_lookupKey_eq_absolute {w : World} {file root : Path}
    (h : (lookupKey w file root).value = w.absolute file) (dir : Path) :
    (lookup w dir file root).value = if file.isEmpty then [] else recordOf w dir file := by
  rw [value_lookup, recordOf]
  cases (load w dir).value with
  | ok db =>
    dsimp only
    rw [value_flagsFor, h]
  | error fault => simp

theorem findSource?_of_rootEntry {w : World} {header : Path} {stem : String} {content : List UInt8}
    {rights : Rights} (hstem : header.stem? = some stem) (hnames : Admissible [stem ++ "." ++ "cpp"])
    (hfile : w.tree.reach? [stem ++ "." ++ "cpp"] = some (.file content rights)) :
    findSource? w header ⟨"/"⟩ = some (Path.ofNames [stem ++ "." ++ "cpp"]) := by
  obtain ⟨entry, hchild, -⟩ := Option.bind_eq_some_iff.1 (Node.at?_of_reach? hfile)
  have hfolder : w.tree.isFolder = true := isFolder_of_child? hchild
  have hnode : ∀ ending, w.node ending ⟨"/"⟩ = .ok w.tree := by
    intro ending
    have hroot : w.place ending ⟨"/"⟩ = .ok [] := place_root w ending hfolder
    rw [World.node, hroot]
    rfl
  have hpath : (Path.mk "/").child (stem ++ "." ++ "cpp") = Path.ofNames [stem ++ "." ++ "cpp"] :=
    @Path.child_ofNames [] (by simp) _
  have hisFile : w.isFile (Path.ofNames [stem ++ "." ++ "cpp"]) = true := by
    rw [World.isFile, node_ofNames .follow hnames (by simp) hfile (by simp)]
    rfl
  obtain ⟨below, hsearched⟩ : ∃ below, searched w ⟨"/"⟩ = ⟨"/"⟩ :: below := by
    rw [searched, hnode, hnode]
    cases htree : w.tree with
    | folder entries rights => exact ⟨_, rfl⟩
    | file | link => simp [htree, Node.isFolder] at hfolder
  rw [findSource?, hstem, hsearched]
  simp [sourceExtensions, hpath, hisFile]

def fooRecord : Entry := ⟨"/", "foo.cpp", some ["cc", "-DX"], none⟩

def fooText : String := "[[\"/\",\"foo.cpp\",[\"cc\",\"-DX\"]]]"

def fooFolder : World where
  tree := .folder [
    (fileName, .file (fooText.toList.map fun c => UInt8.ofNat c.toNat) .data),
    ("foo.cpp", .file [] .data),
    ("foo.h", .folder [] .all)] .all
  cwd := some ["foo.h"]
  programDirs := []

theorem entries?_fooText : entries? fooText = some [fooRecord] := by
  have hchars : fooText.toList = ['[', '[', '"', '/', '"', ',', '"', 'f', 'o', 'o', '.', 'c', 'p',
      'p', '"', ',', '[', '"', 'c', 'c', '"', ',', '"', '-', 'D', 'X', '"', ']', ']', ']'] := by
    decide
  have htokens : Json.tokens? fooText.toList = some [.openArray,
      .openArray, .scalar (.string (some "/")), .comma, .scalar (.string (some "foo.cpp")), .comma,
      .openArray, .scalar (.string (some "cc")), .comma, .scalar (.string (some "-DX")), .closeArray,
      .closeArray, .closeArray] := by
    rw [hchars]
    simp [Json.tokens?, Json.tokensFrom, Json.tokensFrom.start, Json.isSpace, Json.mark?,
      Json.Piece.chars?]
  rw [entries?, Json.parse?, htokens]
  rfl

theorem load_fooFolder :
    (load fooFolder ⟨"/"⟩).value = .ok (ofEntries fooFolder.base [fooRecord]).value := by
  have hpath : (Path.mk "/").child fileName = Path.ofNames [fileName] := by decide
  have hbytes : fooFolder.readBytes (Path.ofNames [fileName]) =
      .ok (fooText.toList.map fun c => UInt8.ofNat c.toNat) :=
    readBytes_ofNames (by decide) (by simp) rfl rfl
  have hdecode : Text.Utf8.decode? (fooText.toList.map fun c => UInt8.ofNat c.toNat) =
      some fooText := Text.Utf8.decode?_ascii (by decide)
  rw [value_load, hpath, World.readText_of_text hbytes hdecode]
  dsimp only
  rw [value_parse, entries?_fooText]

theorem findSource?_fooFolder :
    findSource? fooFolder ⟨"/foo.h"⟩ ⟨"/"⟩ = some ⟨"/foo.cpp"⟩ := by
  have hstem : (Path.mk "/foo.h").stem? = some "foo" := by decide
  have hpath : Path.ofNames ["foo" ++ "." ++ "cpp"] = ⟨"/foo.cpp"⟩ := by decide
  rw [← hpath]
  exact findSource?_of_rootEntry hstem (by decide) rfl

theorem lookup_fooFolder :
    (lookup fooFolder ⟨"/"⟩ ⟨"/foo.cpp"⟩ ⟨"/"⟩).value = [⟨"-DX", ""⟩] := by
  have hkey : (lookupKey fooFolder ⟨"/foo.cpp"⟩ ⟨"/"⟩).value = ⟨"/foo.cpp"⟩ := by
    rw [lookupKey_of_not_isHeader (by decide)]
    decide
  rw [value_lookup, load_fooFolder]
  dsimp only
  rw [value_flagsFor, hkey]
  decide

/-- A header has the key of its source, and its answer from every database; without a source it
has the record of its own. The empty path has no flags, whatever it spells. -/
theorem lookup_header_eq_lookup_source (w : World) {root : Path} (hroot : root.isAbsolute = true) :
    (∀ file, (lookupKey w (lookupKey w file root).value root).value =
      (lookupKey w file root).value) ∧
    ∀ header, isHeader (w.absolute header) = true →
      (∀ source, findSource? w (w.absolute header) root = some source →
        (lookupKey w header root).value = (lookupKey w source root).value ∧
        ∀ dir, (lookup w dir header root).value =
          if header.isEmpty then [] else (lookup w dir source root).value) ∧
      (findSource? w (w.absolute header) root = none → ∀ dir,
        (lookup w dir header root).value =
          if header.isEmpty then [] else recordOf w dir header) := by
  refine ⟨lookupKey_idempotent w hroot, ?_⟩
  intro header hheader
  constructor
  · intro source hfound
    have hkey : (lookupKey w header root).value = (lookupKey w source root).value := by
      rw [lookupKey_of_findSource? hheader hfound, lookupKey_source hroot hfound]
    have hsource : source.isEmpty = false :=
      Path.isEmpty_of_isAbsolute (source_not_isHeader hroot hfound).1
    exact ⟨hkey, lookup_eq_of_lookupKey_eq hkey hsource⟩
  · intro hnone
    exact lookup_of_lookupKey_eq_absolute (lookupKey_of_findSource?_none hnone)

theorem lookup_header_fooFolder :
    (Path.mk "/").isAbsolute = true ∧
      (lookup fooFolder ⟨"/"⟩ ⟨"/foo.h"⟩ ⟨"/"⟩).value = [⟨"-DX", ""⟩] := by
  have hroot : (Path.mk "/").isAbsolute = true := by decide
  have hheader : isHeader (fooFolder.absolute ⟨"/foo.h"⟩) = true := by decide
  have habsolute : fooFolder.absolute ⟨"/foo.h"⟩ = ⟨"/foo.h"⟩ := by decide
  have hsource : findSource? fooFolder (fooFolder.absolute ⟨"/foo.h"⟩) ⟨"/"⟩ =
      some ⟨"/foo.cpp"⟩ := by
    rw [habsolute]
    exact findSource?_fooFolder
  have hlookup := (((lookup_header_eq_lookup_source fooFolder hroot).2 ⟨"/foo.h"⟩ hheader).1
    ⟨"/foo.cpp"⟩ hsource).2 ⟨"/"⟩
  refine ⟨hroot, ?_⟩
  rw [hlookup, if_neg (by decide)]
  exact lookup_fooFolder

/-- The empty path keeps them apart where the working folder is named like a header. -/
theorem lookup_empty_ne_lookup_source :
    ¬ ∀ (w : World) (root dir header source : Path),
      root.isAbsolute = true → root.normalize = root → isHeader (w.absolute header) = true →
      findSource? w (w.absolute header) root = some source →
      (lookup w dir header root).value = (lookup w dir source root).value := by
  intro h
  have hempty : fooFolder.absolute ⟨""⟩ = ⟨"/foo.h"⟩ := by decide
  have hequal := h fooFolder ⟨"/"⟩ ⟨"/"⟩ ⟨""⟩ ⟨"/foo.cpp"⟩ (by decide) (by decide)
    (by decide) (by rw [hempty]; exact findSource?_fooFolder)
  rw [lookup_fooFolder, value_lookup, load_fooFolder] at hequal
  dsimp only at hequal
  rw [value_flagsFor, if_pos (by decide)] at hequal
  cases hequal

end CompileFlags.Database
