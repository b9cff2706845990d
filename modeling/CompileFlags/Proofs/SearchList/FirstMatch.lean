import CompileFlags.Proofs.Path.Canonical
import CompileFlags.Proofs.Text.Lines
import CompileFlags.Proofs.Text.Occurrence
import CompileFlags.SearchList

set_option autoImplicit false

/-!
# The first search list

The pattern of a search list is a start marker, any text and an end marker. Its leftmost match, with
as little text between the markers as possible, is the text between the first start marker and the
first end marker after it, in whatever order and however often the markers stand in the output.
-/

namespace CompileFlags.SearchList

/-- The leftmost match of the pattern, with the shortest text that it can have there. -/
structure FirstMatch (s before list after : List Char) : Prop where
  eq : s = before ++ startMark.toList ++ list ++ endMark.toList ++ after
  leftmost : ∀ b l a, s = b ++ startMark.toList ++ l ++ endMark.toList ++ a →
    before.length ≤ b.length
  shortest : ∀ l a, s = before ++ startMark.toList ++ l ++ endMark.toList ++ a →
    list.length ≤ l.length

def directory? (cwd : Path) (line : List Char) : Option Path :=
  if Text.trimChars line = [] ∨ frameworkMark.toList <:+: line then none
  else some (cwd.absolutize ⟨String.ofList (Text.trimChars line)⟩)

/-- A line that a compiler prints in a search list. -/
inductive Row where
  | directory (left : String) (dir : Path) (right : String)
  | framework (line : String)
  | blank (line : String)

def Row.text : Row → String
  | directory left dir right => left ++ dir.text ++ right
  | framework line => line
  | blank line => line

def Row.dir? : Row → Option Path
  | directory _ dir _ => some dir
  | framework _ => none
  | blank _ => none

def IsPadding (s : String) : Prop :=
  s.toList.all Text.isBlank = true ∧ '\n' ∉ s.toList

instance (s : String) : Decidable (IsPadding s) :=
  inferInstanceAs (Decidable (_ ∧ _))

/-- A directory that stands for itself on a line of a search list. -/
structure IsEntry (dir : Path) : Prop where
  isCanonical : dir.IsCanonical
  trimmed : Text.trim dir.text = dir.text
  oneLine : '\n' ∉ dir.text.toList
  noEnd : ¬ endMark.toList <:+: dir.text.toList
  noFramework : ¬ frameworkMark.toList <:+: dir.text.toList

inductive Row.Listed : Row → Prop where
  | directory {left right : String} {dir : Path} (hleft : IsPadding left) (hright : IsPadding right)
      (hdir : IsEntry dir) : Listed (.directory left dir right)
  | framework {line : String} (hline : '\n' ∉ line.toList)
      (hframework : frameworkMark.toList <:+: line.toList) : Listed (.framework line)
  | blank {line : String} (hline : IsPadding line) : Listed (.blank line)

def listing (rows : List Row) : String :=
  "\n".intercalate (rows.map Row.text)

def printed (front : String) (rows : List Row) (back : String) : String :=
  front ++ startMark ++ listing rows ++ endMark ++ back

variable {s before list after : List Char}

theorem body?_eq_some (h : body? s = some list) :
    ∃ before rest after, Text.FirstAt startMark.toList s before rest ∧
      Text.FirstAt endMark.toList rest list after := by
  unfold body? at h
  obtain ⟨⟨before, rest⟩, hstart, h⟩ := Option.bind_eq_some_iff.1 h
  obtain ⟨⟨found, after⟩, hend, h⟩ := Option.bind_eq_some_iff.1 h
  obtain rfl : found = list := Option.some.inj h
  exact ⟨before, rest, after, Text.cut?_eq_some_iff.1 hstart, Text.cut?_eq_some_iff.1 hend⟩

theorem body?_of_firstAt {rest : List Char} (hstart : Text.FirstAt startMark.toList s before rest) :
    body? s = (Text.cut? endMark.toList rest).map (·.1) := by
  simp only [body?, Text.cut?_eq_some_iff.2 hstart, Option.bind_eq_bind, Option.bind_some]
  cases Text.cut? endMark.toList rest <;> rfl

theorem firstMatch_of_firstAt {rest : List Char}
    (hstart : Text.FirstAt startMark.toList s before rest)
    (hend : Text.FirstAt endMark.toList rest list after) : FirstMatch s before list after := by
  refine ⟨by rw [hstart.eq, hend.eq]; simp, ?_, ?_⟩
  · intro b l a heq
    exact hstart.first b (l ++ endMark.toList ++ a) (by simpa using heq)
  · intro l a heq
    have hrest : rest = l ++ endMark.toList ++ a := by
      rw [hstart.eq] at heq
      simpa using heq
    exact hend.first l a hrest

theorem endMark_behind (h : FirstMatch s before list after) {b rest : List Char}
    (hstart : Text.FirstAt startMark.toList s b rest) : endMark.toList <:+: rest := by
  have hbehind : s = before ++ startMark.toList ++ (list ++ endMark.toList ++ after) := by
    simpa using h.eq
  have hlength := hstart.first before _ hbehind
  have hsuffix : (list ++ endMark.toList ++ after) <:+ rest := by
    have hrest : rest <:+ s := ⟨b ++ startMark.toList, hstart.eq.symm⟩
    have hother : (list ++ endMark.toList ++ after) <:+ s :=
      ⟨before ++ startMark.toList, hbehind.symm⟩
    apply List.suffix_of_suffix_length_le hother hrest
    have htotal := congrArg List.length (hbehind.symm.trans hstart.eq)
    simp only [List.length_append] at htotal ⊢
    omega
  exact (List.infix_append list endMark.toList after).trans hsuffix.isInfix

theorem FirstMatch.unique {b l a : List Char} (h : FirstMatch s before list after)
    (h' : FirstMatch s b l a) : list = l := by
  have hbefore : before.length = b.length :=
    Nat.le_antisymm (h.leftmost b l a h'.eq) (h'.leftmost before list after h.eq)
  have hfront : before = b := by
    have heq := h.eq.symm.trans h'.eq
    simp only [List.append_assoc] at heq
    exact (List.append_inj heq hbefore).1
  subst hfront
  have hlength : list.length = l.length :=
    Nat.le_antisymm (h.shortest l a h'.eq) (h'.shortest list after h.eq)
  have heq := h.eq.symm.trans h'.eq
  simp only [List.append_assoc, List.append_cancel_left_eq] at heq
  exact (List.append_inj heq hlength).1

theorem body?_of_firstMatch (h : FirstMatch s before list after) : body? s = some list := by
  cases hcut : Text.cut? startMark.toList s with
  | none =>
    refine absurd ⟨before, list ++ endMark.toList ++ after, ?_⟩ (Text.cut?_eq_none_iff.1 hcut)
    rw [h.eq]
    simp
  | some found =>
    have hstart := Text.firstAt_of_cut? hcut
    cases hbody : body? s with
    | none =>
      rw [body?_of_firstAt hstart, Option.map_eq_none_iff, Text.cut?_eq_none_iff] at hbody
      exact absurd (endMark_behind h hstart) hbody
    | some other =>
      obtain ⟨b, rest, a, hfirst, hend⟩ := body?_eq_some hbody
      rw [(firstMatch_of_firstAt hfirst hend).unique h]

theorem body?_eq_none_iff : body? s = none ↔
    ∀ before rest, Text.FirstAt startMark.toList s before rest → ¬ endMark.toList <:+: rest := by
  constructor
  · intro hnone before rest hstart
    rwa [body?_of_firstAt hstart, Option.map_eq_none_iff, Text.cut?_eq_none_iff] at hnone
  · intro h
    cases hbody : body? s with
    | none => rfl
    | some list =>
      obtain ⟨before, rest, after, hstart, hend⟩ := body?_eq_some hbody
      exact absurd hend.occurs (h before rest hstart)

theorem frameworkMark_infix_trimChars {line : List Char} :
    frameworkMark.toList <:+: Text.trimChars line ↔ frameworkMark.toList <:+: line :=
  Text.infix_trimChars_iff (by decide) (by decide)

def ofTrimmed? (cwd : Path) (line : List Char) : Option Path :=
  if line = [] ∨ frameworkMark.toList <:+: line then none
  else some (cwd.absolutize ⟨String.ofList line⟩)

theorem directory?_eq (cwd : Path) (line : List Char) :
    directory? cwd line = ofTrimmed? cwd (Text.trimChars line) := by
  simp only [directory?, ofTrimmed?, frameworkMark_infix_trimChars]

theorem filterMap_directory? (cwd : Path) (lines : List (List Char)) :
    lines.filterMap (directory? cwd) =
      (lines.map Text.trimChars).filterMap (ofTrimmed? cwd) := by
  rw [List.filterMap_map]
  exact congrArg (lines.filterMap ·) (funext (directory?_eq cwd))

theorem entries_eq (cwd : Path) (list : List Char) :
    (entries list).map (fun line => cwd.absolutize ⟨String.ofList line⟩) =
      (Text.lines list).filterMap (directory? cwd) := by
  rw [entries, filterMap_directory?]
  induction (Text.lines list).map Text.trimChars with
  | nil => rfl
  | cons line lines ih =>
    rw [List.filter_cons, List.filterMap_cons]
    have hcontains : Text.contains frameworkMark.toList line = true ↔
        frameworkMark.toList <:+: line := Text.contains_iff
    by_cases hempty : line = []
    · simpa [ofTrimmed?, hempty] using ih
    · by_cases hmark : frameworkMark.toList <:+: line
      · simpa [ofTrimmed?, hmark, hcontains.2 hmark] using ih
      · have hfree := Bool.eq_false_iff.2 (mt hcontains.1 hmark)
        simpa [ofTrimmed?, hempty, hmark, hfree] using ih

theorem parse?_of_body? {output : String} (cwd : Path) (h : body? output.toList = some list) :
    parse? output cwd = some ((Text.lines list).filterMap (directory? cwd)) := by
  rw [parse?, h, Option.map_some, entries_eq]

theorem parse?_of_firstAt {output : String} (cwd : Path) {rest : List Char}
    (hstart : Text.FirstAt startMark.toList output.toList before rest)
    (hend : Text.FirstAt endMark.toList rest list after) :
    parse? output cwd = some ((Text.lines list).filterMap (directory? cwd)) := by
  have hbody : body? output.toList = some list := by
    rw [body?_of_firstAt hstart, Text.cut?_eq_some_iff.2 hend]
    rfl
  exact parse?_of_body? cwd hbody

theorem filterMap_pieces (cwd : Path) (list : List Char) :
    (Text.splitOn '\n' list).filterMap (directory? cwd) =
      (Text.lines list).filterMap (directory? cwd) := by
  obtain ⟨last, hlast, hpieces⟩ := Text.exists_trimmed_lines_append list
  have hnone : last.filterMap (ofTrimmed? cwd) = [] := by
    rw [List.filterMap_eq_nil_iff]
    intro line hline
    simp [ofTrimmed?, hlast line hline]
  rw [filterMap_directory?, hpieces, List.filterMap_append, hnone, List.append_nil,
    ← filterMap_directory?]

theorem IsPadding.isBlank {s : String} (h : IsPadding s) : ∀ c ∈ s.toList, Text.isBlank c = true :=
  List.all_eq_true.1 h.1

theorem Row.Listed.newline_not_mem {row : Row} (h : row.Listed) : '\n' ∉ row.text.toList := by
  cases h with
  | directory hleft hright hdir => simp [Row.text, hleft.2, hright.2, hdir.oneLine]
  | framework hline => exact hline
  | blank hline => exact hline.2

theorem trimChars_directory {left right : String} {dir : Path} (hleft : IsPadding left)
    (hright : IsPadding right) (hdir : IsEntry dir) :
    Text.trimChars (left ++ dir.text ++ right).toList = dir.text.toList := by
  have htrim : Text.trimChars dir.text.toList = dir.text.toList := by
    have hchars := congrArg String.toList hdir.trimmed
    simpa [Text.trim] using hchars
  rw [String.toList_append, String.toList_append,
    Text.trimChars_append_blanks hleft.isBlank hright.isBlank, htrim]

theorem directory?_row (cwd : Path) {row : Row} (h : row.Listed) :
    directory? cwd row.text.toList = row.dir? := by
  cases h with
  | @directory left right dir hleft hright hdir =>
    have hne : dir.text.toList ≠ [] := by
      intro hnil
      have habsolute := hdir.isCanonical.isAbsolute
      simp [Path.isAbsolute, hnil] at habsolute
    rw [directory?_eq, Row.text, trimChars_directory hleft hright hdir, ofTrimmed?,
      if_neg (not_or.2 ⟨hne, hdir.noFramework⟩), String.ofList_toList,
      hdir.isCanonical.absolutize_eq]
    rfl
  | framework hline hframework => simp [directory?, Row.text, Row.dir?, hframework]
  | blank hline =>
    have htrim := Text.trimChars_of_isBlank hline.isBlank
    simp [directory?, Row.text, Row.dir?, htrim]

/-- Of the listed rows only a framework line can have the end marker. -/
theorem Row.Listed.endMark_not_mem {row : Row} (h : row.Listed)
    (hframework : ∀ line, row = .framework line → ¬ endMark.toList <:+: line.toList) :
    ¬ endMark.toList <:+: row.text.toList := by
  intro hmark
  have htrimmed := @Text.infix_trimChars endMark.toList _ (by decide) (by decide) hmark
  cases h with
  | directory hleft hright hdir =>
    rw [Row.text, trimChars_directory hleft hright hdir] at htrimmed
    exact hdir.noEnd htrimmed
  | @framework line => exact hframework line rfl hmark
  | blank hline =>
    rw [Row.text, Text.trimChars_of_isBlank hline.isBlank] at htrimmed
    exact absurd (List.eq_nil_of_infix_nil htrimmed) (by decide)

variable {rows : List Row}

theorem splitOn_rows (hne : rows ≠ []) (h : ∀ row ∈ rows, row.Listed) :
    Text.splitOn '\n' (listing rows).toList = rows.map fun row => row.text.toList := by
  have hlines : ∀ text ∈ rows.map Row.text, '\n' ∉ text.toList := by
    intro text htext
    obtain ⟨row, hrow, rfl⟩ := List.mem_map.1 htext
    exact (h row hrow).newline_not_mem
  rw [listing, Text.splitOn_intercalate rfl (by simpa using hne) hlines]
  simp

theorem endMark_not_mem_rows (h : ∀ row ∈ rows, row.Listed)
    (hframework : ∀ line, .framework line ∈ rows → ¬ endMark.toList <:+: line.toList) :
    ¬ endMark.toList <:+: (listing rows).toList := by
  intro hmark
  by_cases hne : rows = []
  · subst hne
    exact absurd (List.eq_nil_of_infix_nil hmark) (by decide)
  · obtain ⟨line, hline, hinfix⟩ := @Text.exists_infix_splitOn _ _ '\n' (by decide) hmark
    rw [splitOn_rows hne h] at hline
    obtain ⟨row, hrow, rfl⟩ := List.mem_map.1 hline
    exact (h row hrow).endMark_not_mem (fun line hline => hframework line (hline ▸ hrow)) hinfix

theorem filterMap_rows (cwd : Path) (h : ∀ row ∈ rows, row.Listed) :
    (Text.lines (listing rows).toList).filterMap (directory? cwd) =
      rows.filterMap Row.dir? := by
  rw [← filterMap_pieces]
  by_cases hne : rows = []
  · subst hne
    rfl
  · rw [splitOn_rows hne h, List.filterMap_map]
    exact List.filterMap_congr fun row hrow => directory?_row cwd (h row hrow)

theorem parse?_printed (cwd : Path) {front : String} (hfront : ¬ startMark.toList <:+: front.toList)
    (h : ∀ row ∈ rows, row.Listed)
    (hframework : ∀ line, .framework line ∈ rows → ¬ endMark.toList <:+: line.toList)
    (back : String) : parse? (printed front rows back) cwd = some (rows.filterMap Row.dir?) := by
  have hstartMark : startMark.toList = '#' :: "include <...> search starts here:".toList := by
    decide
  have hendMark : endMark.toList = 'E' :: "nd of search list".toList := by decide
  have hend : Text.FirstAt endMark.toList ((listing rows).toList ++ endMark.toList ++ back.toList)
      (listing rows).toList back.toList := by
    have hfree := endMark_not_mem_rows h hframework
    rw [hendMark] at hfree ⊢
    exact Text.firstAt_append (by decide) hfree _
  have hstart : Text.FirstAt startMark.toList (printed front rows back).toList front.toList
      ((listing rows).toList ++ endMark.toList ++ back.toList) := by
    have htext : (printed front rows back).toList = front.toList ++ startMark.toList ++
        ((listing rows).toList ++ endMark.toList ++ back.toList) := by
      simp [printed]
    rw [htext]
    rw [hstartMark] at hfront ⊢
    exact Text.firstAt_append (by decide) hfront _
  rw [parse?_of_firstAt cwd hstart hend, filterMap_rows cwd h]

/-- The list is the one between the first start marker and the first end marker after it, which is
also the first match of the pattern; each of its lines that is neither blank nor a framework line is
a directory. So what a compiler prints between the markers is read in order, whatever follows it, if
no framework line has the end marker in it. -/
theorem parse?_first_list (cwd : Path) :
    (∀ output : String,
      (parse? output cwd = none ↔ ∀ before rest,
        Text.FirstAt startMark.toList output.toList before rest → ¬ endMark.toList <:+: rest) ∧
      (∀ before rest list after, Text.FirstAt startMark.toList output.toList before rest →
        Text.FirstAt endMark.toList rest list after →
        parse? output cwd = some ((Text.lines list).filterMap (directory? cwd))) ∧
      ∀ dirs, parse? output cwd = some dirs ↔ ∃ before list after,
        FirstMatch output.toList before list after ∧
          (Text.lines list).filterMap (directory? cwd) = dirs) ∧
    ∀ (front : String) (rows : List Row) (back : String),
      ¬ startMark.toList <:+: front.toList → (∀ row ∈ rows, row.Listed) →
      (∀ line, .framework line ∈ rows → ¬ endMark.toList <:+: line.toList) →
      parse? (printed front rows back) cwd = some (rows.filterMap Row.dir?) := by
  refine ⟨fun output => ⟨?_, ?_, fun dirs => ⟨?_, ?_⟩⟩, ?_⟩
  · rw [parse?, Option.map_eq_none_iff, body?_eq_none_iff]
  · intro before rest list after hstart hend
    exact parse?_of_firstAt cwd hstart hend
  · intro hdirs
    obtain ⟨list, hbody, -⟩ := Option.map_eq_some_iff.1 hdirs
    obtain ⟨before, rest, after, hstart, hend⟩ := body?_eq_some hbody
    refine ⟨before, list, after, firstMatch_of_firstAt hstart hend, ?_⟩
    exact Option.some.inj ((parse?_of_body? cwd hbody).symm.trans hdirs)
  · rintro ⟨before, list, after, hmatch, rfl⟩
    exact parse?_of_body? cwd (body?_of_firstMatch hmatch)
  · intro front rows back hfront h hframework
    exact parse?_printed cwd hfront h hframework back

/-- Rows as compilers print them: indented, with framework directories, behind line endings of both
kinds. -/
def sdkRows : List Row :=
  [.blank "", .directory " " ⟨"/usr/include"⟩ "", .framework " /System (framework directory)",
    .directory " " ⟨"/opt/a (b)"⟩ "\r", .blank "\t", .directory "" ⟨"/usr/include"⟩ ""]

theorem parse?_first_list_sdkRows :
    (∀ row ∈ sdkRows, row.Listed) ∧
      parse? (printed "End of search list\n#include <" sdkRows (". " ++ printed "" [] "")) ⟨"."⟩ =
        some [⟨"/usr/include"⟩, ⟨"/opt/a (b)"⟩, ⟨"/usr/include"⟩] := by
  have hinclude : IsEntry ⟨"/usr/include"⟩ :=
    ⟨⟨["usr", "include"], by decide, by decide⟩, by decide, by decide, by decide, by decide⟩
  have hopt : IsEntry ⟨"/opt/a (b)"⟩ :=
    ⟨⟨["opt", "a (b)"], by decide, by decide⟩, by decide, by decide, by decide, by decide⟩
  have hrows : ∀ row ∈ sdkRows, row.Listed := by
    simp only [sdkRows, List.forall_mem_cons]
    exact ⟨.blank (by decide), .directory (by decide) (by decide) hinclude,
      .framework (by decide) (by decide), .directory (by decide) (by decide) hopt,
      .blank (by decide), .directory (by decide) (by decide) hinclude, by simp⟩
  have hframework : ∀ line, .framework line ∈ sdkRows → ¬ endMark.toList <:+: line.toList := by
    intro line hline
    obtain rfl : line = " /System (framework directory)" := by simpa [sdkRows] using hline
    decide
  exact ⟨hrows, (parse?_first_list ⟨"."⟩).2 _ _ _ (by decide) hrows hframework⟩

theorem parse?_printed_ne :
    ¬ ∀ (cwd : Path) (front : String) (rows : List Row) (back : String),
      ¬ startMark.toList <:+: front.toList → (∀ row ∈ rows, row.Listed) →
      parse? (printed front rows back) cwd = some (rows.filterMap Row.dir?) := by
  intro h
  have ha : IsEntry ⟨"/a"⟩ :=
    ⟨⟨["a"], by decide, by decide⟩, by decide, by decide, by decide, by decide⟩
  have hb : IsEntry ⟨"/b"⟩ :=
    ⟨⟨["b"], by decide, by decide⟩, by decide, by decide, by decide, by decide⟩
  have hrows : ∀ row ∈ [Row.blank "", .directory "" ⟨"/a"⟩ "",
      .framework "End of search list (framework directory)", .directory "" ⟨"/b"⟩ "",
      .blank ""], row.Listed := by
    simp only [List.forall_mem_cons]
    exact ⟨.blank (by decide), .directory (by decide) (by decide) ha,
      .framework (by decide) (by decide), .directory (by decide) (by decide) hb,
      .blank (by decide), by simp⟩
  have hread := h ⟨"/"⟩ "" _ "." (by decide) hrows
  revert hread
  decide

end CompileFlags.SearchList
