import CompileFlags.Proofs.Database.HeaderSource

set_option autoImplicit false

namespace CompileFlags.Database

open Disk

theorem lookupKey_of_no_source {w : World} {file root : Path}
    (h : isHeader (w.absolute file) = true → ∀ source, ¬ IsSource w (w.absolute file) root source) :
    (lookupKey w file root).value = w.absolute file := by
  by_cases hheader : isHeader (w.absolute file) = true
  · exact lookupKey_of_findSource?_none ((findSource?_eq_none_iff w _ root).2 (h hheader))
  · exact lookupKey_of_not_isHeader (Bool.eq_false_iff.2 hheader) root

theorem lookupKey_of_source {w : World} {file root candidate : Path}
    (hheader : isHeader (w.absolute file) = true)
    (h : IsSource w (w.absolute file) root candidate) :
    ∃ source, IsSource w (w.absolute file) root source ∧
      findSource? w (w.absolute file) root = some source ∧
      (lookupKey w file root).value = source.normalize := by
  cases hfound : findSource? w (w.absolute file) root with
  | none => exact absurd h ((findSource?_eq_none_iff w _ root).1 hfound candidate)
  | some source =>
    exact ⟨source, findSource?_isSource hfound, rfl, lookupKey_of_findSource? hheader hfound⟩

theorem flagsFor_of_lookupKey_eq {db : Database} {w : World} {file root key : Path}
    (hfile : file.isEmpty = false) (h : (lookupKey w file root).value = key) :
    (flagsFor db w file root).value = (db.find? key).getD [] := by
  rw [value_flagsFor, hfile, h]
  rfl

def headerBesideSource : World where
  tree := .folder [("foo.cpp", .file [] .data), ("foo.h", .file [] .data)] .all
  cwd := some []
  programDirs := []

def headerRecords : Database :=
  [(⟨"/foo.h"⟩, [.bare "-DHEADER"]), (⟨"/bar.cpp"⟩, [.bare "-DBAR"])]

theorem findSource?_headerBesideSource :
    findSource? headerBesideSource ⟨"/foo.h"⟩ ⟨"/"⟩ = some ⟨"/foo.cpp"⟩ := by
  have hstem : (Path.mk "/foo.h").stem? = some "foo" := by decide
  have hpath : Path.ofNames ["foo" ++ "." ++ "cpp"] = ⟨"/foo.cpp"⟩ := by decide
  rw [← hpath]
  exact findSource?_of_rootEntry hstem (by decide) rfl

/-- A file that is no header with a source has its own record or nothing. A header with a source
has the record of a source or nothing, whatever is recorded of itself. -/
theorem flagsFor_own_record (db : Database) (w : World) {file : Path}
    (hfile : file.isEmpty = false) (root : Path) :
    ((isHeader (w.absolute file) = true → ∀ source, ¬ IsSource w (w.absolute file) root source) →
      (∀ flags, db.find? (w.absolute file) = some flags → (flagsFor db w file root).value = flags) ∧
      (db.find? (w.absolute file) = none → (flagsFor db w file root).value = [])) ∧
    (isHeader (w.absolute file) = true →
      ∀ candidate, IsSource w (w.absolute file) root candidate →
        ∃ source, IsSource w (w.absolute file) root source ∧
          findSource? w (w.absolute file) root = some source ∧
          (flagsFor db w file root).value = (db.find? source.normalize).getD []) := by
  constructor
  · intro hsource
    have hanswer : (flagsFor db w file root).value = (db.find? (w.absolute file)).getD [] :=
      flagsFor_of_lookupKey_eq hfile (lookupKey_of_no_source hsource)
    refine ⟨fun flags hrecord => ?_, fun hrecord => ?_⟩
    · rw [hanswer, hrecord]
      rfl
    · rw [hanswer, hrecord]
      rfl
  · intro hheader candidate hcandidate
    obtain ⟨source, hsource, hfound, hkey⟩ := lookupKey_of_source hheader hcandidate
    exact ⟨source, hsource, hfound, flagsFor_of_lookupKey_eq hfile hkey⟩

theorem flagsFor_own_record_headerBesideSource :
    (Path.mk "/foo.h").isEmpty = false ∧ (Path.mk "/bar.cpp").isEmpty = false ∧
      (flagsFor headerRecords headerBesideSource ⟨"/foo.h"⟩ ⟨"/"⟩).value = [] ∧
      (flagsFor headerRecords headerBesideSource ⟨"/bar.cpp"⟩ ⟨"/"⟩).value = [.bare "-DBAR"] := by
  have hheader : (Path.mk "/foo.h").isEmpty = false := by decide
  have hbar : (Path.mk "/bar.cpp").isEmpty = false := by decide
  have habsolute : headerBesideSource.absolute ⟨"/foo.h"⟩ = ⟨"/foo.h"⟩ := by decide
  have hfound : findSource? headerBesideSource (headerBesideSource.absolute ⟨"/foo.h"⟩) ⟨"/"⟩ =
      some ⟨"/foo.cpp"⟩ := by
    rw [habsolute]
    exact findSource?_headerBesideSource
  refine ⟨hheader, hbar, ?_, ?_⟩
  · obtain ⟨source, -, hsource, hanswer⟩ :=
      (flagsFor_own_record headerRecords headerBesideSource hheader ⟨"/"⟩).2 (by decide)
        ⟨"/foo.cpp"⟩ (findSource?_isSource hfound)
    have hsame : source = ⟨"/foo.cpp"⟩ := Option.some.inj (hsource.symm.trans hfound)
    rw [hanswer, hsame]
    decide
  · have hno : isHeader (headerBesideSource.absolute ⟨"/bar.cpp"⟩) = false := by decide
    refine ((flagsFor_own_record headerRecords headerBesideSource hbar ⟨"/"⟩).1 ?_).1 _
      (by decide)
    intro hyes
    rw [hno] at hyes
    contradiction

theorem flagsFor_ne_own_record :
    ¬ ∀ (db : Database) (w : World) (file root : Path) (flags : FlagList), file.isEmpty = false →
      db.find? (w.absolute file) = some flags → (flagsFor db w file root).value = flags := by
  intro h
  have habsolute : headerBesideSource.absolute ⟨"/foo.h"⟩ = ⟨"/foo.h"⟩ := by decide
  have hkey : (lookupKey headerBesideSource ⟨"/foo.h"⟩ ⟨"/"⟩).value =
      (Path.mk "/foo.cpp").normalize :=
    lookupKey_of_findSource? (by decide)
      (by rw [habsolute]; exact findSource?_headerBesideSource)
  have hown := h headerRecords headerBesideSource ⟨"/foo.h"⟩ ⟨"/"⟩ [.bare "-DHEADER"] (by decide)
    (by decide)
  rw [flagsFor_of_lookupKey_eq (by decide) hkey] at hown
  revert hown
  decide

end CompileFlags.Database
