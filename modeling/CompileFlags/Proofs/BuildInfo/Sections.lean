import CompileFlags.BuildInfo.Basic
import CompileFlags.Proofs.Text.Lines
import Mathlib.Data.List.Induction

set_option autoImplicit false

namespace CompileFlags.BuildInfo

def trimmedLines (content : String) : List (List Char) :=
  (Text.lines content.toList).map Text.trimChars

def nearestHeader? (above : List (List Char)) : Option (List Char) :=
  above.reverse.find? fun line => line.head? = some '['

def lineFlag? (base : Path) (above : List (List Char)) (line : List Char) : Option Flag :=
  if line = [] ∨ line.head? = some '[' then none
  else if nearestHeader? above = some "[includedirs]".toList then
    some ⟨"-isystem", (base.absolutize ⟨String.ofList line⟩).text⟩
  else if nearestHeader? above = some "[defines]".toList then some ⟨"-D", String.ofList line⟩
  else none

def flagsOfLines (base : Path) (lines : List (List Char)) : FlagList :=
  lines.zipIdx.filterMap fun item => lineFlag? base (lines.take item.2) item.1

def InCounted (above : List (List Char)) : Prop :=
  nearestHeader? above = some "[includedirs]".toList ∨
    nearestHeader? above = some "[defines]".toList

def StartsWithHeader (content : String) : Prop :=
  ∀ line ∈ (trimmedLines content).find? (· ≠ []), line.head? = some '['

instance (above : List (List Char)) : Decidable (InCounted above) :=
  inferInstanceAs (Decidable (_ ∨ _))

instance (content : String) : Decidable (StartsWithHeader content) :=
  inferInstanceAs (Decidable (∀ line ∈ (trimmedLines content).find? (· ≠ []), _))

theorem isHeader_iff {line : List Char} : isHeader line = true ↔ line.head? = some '[' := by
  simp [isHeader]

theorem nearestHeader?_concat (above : List (List Char)) (line : List Char) :
    nearestHeader? (above ++ [line]) =
      if line.head? = some '[' then some line else nearestHeader? above := by
  rw [nearestHeader?, List.reverse_append, List.reverse_singleton, List.singleton_append,
    List.find?_cons]
  by_cases h : line.head? = some '['
  · simp [h]
  · simp [h, nearestHeader?]

theorem nearestHeader?_append {above lines : List (List Char)}
    (h : ∀ line ∈ lines, line.head? ≠ some '[') :
    nearestHeader? (above ++ lines) = nearestHeader? above := by
  induction lines generalizing above with
  | nil => rw [List.append_nil]
  | cons line lines ih =>
    rw [List.append_cons, ih fun other hother => h other (List.mem_cons_of_mem line hother),
      nearestHeader?_concat, if_neg (h line List.mem_cons_self)]

def sectionBelow (above : List (List Char)) : Section :=
  match nearestHeader? above with
  | some header => .ofHeader header
  | none => .other

theorem sectionBelow_header {above : List (List Char)} {line : List Char}
    (h : line.head? = some '[') : sectionBelow (above ++ [line]) = .ofHeader line := by
  rw [sectionBelow, nearestHeader?_concat, if_pos h]

theorem sectionBelow_append {above lines : List (List Char)}
    (h : ∀ line ∈ lines, line.head? ≠ some '[') :
    sectionBelow (above ++ lines) = sectionBelow above := by
  rw [sectionBelow, nearestHeader?_append h, sectionBelow]

theorem sectionBelow_eq_other {above : List (List Char)} (h : ¬ InCounted above) :
    sectionBelow above = .other := by
  unfold sectionBelow
  split
  · next header hheader =>
    rw [InCounted, hheader, not_or] at h
    rw [Section.ofHeader, if_neg fun heq => h.1 (congrArg some heq),
      if_neg fun heq => h.2 (congrArg some heq)]
  · rfl

theorem sectionBelow_nil : sectionBelow [] = .other := rfl

theorem lineFlag?_eq (base : Path) (above : List (List Char)) {line : List Char}
    (hline : line ≠ []) (hheader : line.head? ≠ some '[') :
    lineFlag? base above line = (sectionBelow above).flag? base line := by
  rw [lineFlag?, if_neg (not_or.2 ⟨hline, hheader⟩)]
  split
  · next h =>
    rw [sectionBelow, h]
    rfl
  · next hdirs =>
    split
    · next h =>
      rw [sectionBelow, h]
      rfl
    · next hdefines =>
      rw [sectionBelow_eq_other (not_or.2 ⟨hdirs, hdefines⟩)]
      rfl

theorem flagsFrom_cons (base : Path) (above : List (List Char)) (line : List Char)
    (rest : List (List Char)) :
    flagsFrom base (sectionBelow above) (line :: rest) =
      (lineFlag? base above line).toList ++
        flagsFrom base (sectionBelow (above ++ [line])) rest := by
  rw [flagsFrom]
  by_cases hline : line = []
  · subst hline
    rw [sectionBelow_append (by simp)]
    rfl
  · rw [if_neg (by simpa using hline)]
    by_cases hheader : line.head? = some '['
    · rw [if_pos (isHeader_iff.2 hheader), sectionBelow_header hheader, lineFlag?,
        if_pos (.inr hheader)]
      rfl
    · rw [if_neg (mt isHeader_iff.1 hheader), lineFlag?_eq base above hline hheader,
        sectionBelow_append (by simpa using hheader)]

theorem flagsFrom_append (base : Path) (above lines rest : List (List Char)) :
    flagsFrom base (sectionBelow above) (lines ++ rest) =
      flagsFrom base (sectionBelow above) lines ++
        flagsFrom base (sectionBelow (above ++ lines)) rest := by
  induction lines generalizing above with
  | nil => simp [flagsFrom]
  | cons line lines ih =>
    rw [List.cons_append, flagsFrom_cons, flagsFrom_cons, ih, List.append_assoc, List.append_assoc,
      List.singleton_append]

theorem flagsFrom_eq_filterMap (base : Path) (above lines : List (List Char)) :
    flagsFrom base (sectionBelow above) lines =
      lines.zipIdx.filterMap fun item => lineFlag? base (above ++ lines.take item.2) item.1 := by
  induction lines generalizing above with
  | nil => rfl
  | cons line lines ih =>
    have hrest : (lines.zipIdx 1).filterMap (fun item =>
        lineFlag? base (above ++ (line :: lines).take item.2) item.1) =
        lines.zipIdx.filterMap fun item =>
          lineFlag? base (above ++ [line] ++ lines.take item.2) item.1 := by
      rw [List.zipIdx_succ, List.filterMap_map]
      simp [Function.comp_def]
    rw [flagsFrom_cons, ih, List.zipIdx_cons, List.filterMap_cons, hrest]
    simp only [List.take_zero, List.append_nil]
    cases lineFlag? base above line <;> rfl

theorem flagsFrom_of_no_header (base : Path) {lines : List (List Char)}
    (h : ∀ line ∈ lines, line.head? ≠ some '[') : flagsFrom base .other lines = [] := by
  induction lines with
  | nil => rfl
  | cons line lines ih =>
    have hrest := ih fun other hother => h other (List.mem_cons_of_mem line hother)
    rw [flagsFrom, hrest, if_neg (mt isHeader_iff.1 (h line List.mem_cons_self))]
    split <;> rfl

theorem flagsFrom_of_blank (base : Path) (at_ : Section) {lines : List (List Char)}
    (h : ∀ line ∈ lines, line = []) : flagsFrom base at_ lines = [] := by
  induction lines with
  | nil => rfl
  | cons line lines ih =>
    rw [h line List.mem_cons_self]
    exact ih fun other hother => h other (List.mem_cons_of_mem line hother)

/-- Before the first header it counts where the reader comes from, after it no more. -/
theorem flagsFrom_of_header (base : Path) (at_ : Section) {lines : List (List Char)}
    (h : ∀ line ∈ lines.find? (· ≠ []), line.head? = some '[') :
    flagsFrom base at_ lines = flagsFrom base .other lines := by
  induction lines with
  | nil => rfl
  | cons line lines ih =>
    rw [flagsFrom, flagsFrom]
    by_cases hline : line = []
    · subst hline
      exact ih fun other hother => h other (by simpa using hother)
    · have hheader := isHeader_iff.2 (h line (by simp [hline]))
      rw [if_neg (by simpa using hline), if_pos hheader, if_neg (by simpa using hline),
        if_pos hheader]

theorem flagsFrom_pieces (base : Path) (content : String) :
    flagsFrom base .other ((Text.splitOn '\n' content.toList).map Text.trimChars) =
      parse content base := by
  obtain ⟨last, hlast, hpieces⟩ := Text.exists_trimmed_lines_append content.toList
  rw [hpieces, ← sectionBelow_nil, flagsFrom_append, flagsFrom_of_blank base _ hlast,
    List.append_nil]
  rfl

theorem find?_pieces (content : String) :
    ((Text.splitOn '\n' content.toList).map Text.trimChars).find? (· ≠ []) =
      (trimmedLines content).find? (· ≠ []) := by
  obtain ⟨last, hlast, hpieces⟩ := Text.exists_trimmed_lines_append content.toList
  have hnone : last.find? (· ≠ []) = none := by simpa using hlast
  rw [hpieces, List.find?_append, hnone, Option.or_none]
  rfl

/-- A text that starts with a header is read by itself, whatever stands above it. -/
theorem parse_append_line (base : Path) (above content : String) (h : StartsWithHeader content) :
    parse (above ++ "\n" ++ content) base = parse above base ++ parse content base := by
  have hsplit : Text.splitOn '\n' (above ++ "\n" ++ content).toList =
      Text.splitOn '\n' above.toList ++ Text.splitOn '\n' content.toList := by
    rw [← Text.splitOn_append]
    simp
  have hbelow : ∀ at_, flagsFrom base at_
      ((Text.splitOn '\n' content.toList).map Text.trimChars) = parse content base := by
    intro at_
    rw [flagsFrom_of_header base at_ (by rw [find?_pieces]; exact h), flagsFrom_pieces]
  rw [← flagsFrom_pieces, hsplit, List.map_append, ← sectionBelow_nil, flagsFrom_append, hbelow,
    sectionBelow_nil, flagsFrom_pieces]

theorem parse_intercalate (base : Path) (first : String) {parts : List String}
    (h : ∀ part ∈ parts, StartsWithHeader part) :
    parse ("\n".intercalate (first :: parts)) base =
      (first :: parts).flatMap fun part => parse part base := by
  induction parts using List.reverseRecOn with
  | nil => simp
  | append_singleton parts last ih =>
    have htext : "\n".intercalate (first :: parts ++ [last]) =
        "\n".intercalate (first :: parts) ++ "\n" ++ last := by
      rw [String.intercalate_append_of_ne_nil (List.cons_ne_nil _ _) (List.cons_ne_nil _ _),
        String.intercalate_singleton]
    rw [← List.cons_append, htext, parse_append_line base _ last (h last (by simp)),
      ih fun part hpart => h part (by simp [hpart]), List.flatMap_append, List.flatMap_singleton]

/-- Lines below no counted header can be exchanged for others that are no headers either. -/
theorem parse_eq_of_uncounted (base : Path) {content content' : String}
    {above lines lines' below : List (List Char)} (h : trimmedLines content = above ++ lines ++ below)
    (h' : trimmedLines content' = above ++ lines' ++ below) (hinert : ¬ InCounted above)
    (hlines : ∀ line ∈ lines ++ lines', line.head? ≠ some '[') :
    parse content base = parse content' base := by
  have hread : ∀ {text : String} {between : List (List Char)},
      trimmedLines text = above ++ between ++ below → (∀ line ∈ between, line.head? ≠ some '[') →
      parse text base = flagsFrom base .other above ++ flagsFrom base .other below := by
    intro text between htext hbetween
    change flagsFrom base .other (trimmedLines text) = _
    rw [htext, ← sectionBelow_nil, flagsFrom_append, flagsFrom_append, List.nil_append,
      List.nil_append, sectionBelow_append hbetween, sectionBelow_eq_other hinert, sectionBelow_nil,
      flagsFrom_of_no_header base hbetween, List.append_nil]
  rw [hread h fun line hline => hlines line (List.mem_append_left _ hline),
    hread h' fun line hline => hlines line (List.mem_append_right _ hline)]

/-- Each line contributes what the nearest header above it says, in order. Hence what stands below no
counted header does not matter, and texts that start with headers are read one after the other. -/
theorem parse_nearest_header (base : Path) :
    (∀ content, parse content base = flagsOfLines base (trimmedLines content)) ∧
    (∀ (content content' : String) (above lines lines' below : List (List Char)),
      trimmedLines content = above ++ lines ++ below →
      trimmedLines content' = above ++ lines' ++ below → ¬ InCounted above →
      (∀ line ∈ lines ++ lines', line.head? ≠ some '[') →
      parse content base = parse content' base) ∧
    (∀ above content, StartsWithHeader content →
      parse (above ++ "\n" ++ content) base = parse above base ++ parse content base) ∧
    ∀ (first : String) (parts : List String), (∀ part ∈ parts, StartsWithHeader part) →
      parse ("\n".intercalate (first :: parts)) base =
        (first :: parts).flatMap fun part => parse part base := by
  refine ⟨fun content => ?_, ?_, parse_append_line base, ?_⟩
  · exact flagsFrom_eq_filterMap base [] (trimmedLines content)
  · intro content content' above lines lines' below h h' hinert hlines
    exact parse_eq_of_uncounted base h h' hinert hlines
  · intro first parts h
    exact parse_intercalate base first h

/-- A header that only begins like a counted one, a section that is entered again, line endings of
both kinds. -/
theorem parse_nearest_header_reentered :
    StartsWithHeader "\t\r\n [defines]\r\n A=[b] \n[includedirs]\n./x/.." ∧
    parse ("[includedirs]\n../deps\n[defines_fmt]\nX=1" ++ "\n" ++
        "\t\r\n [defines]\r\n A=[b] \n[includedirs]\n./x/..") ⟨"/p/build"⟩ =
      [⟨"-isystem", "/p/deps"⟩, ⟨"-D", "A=[b]"⟩, ⟨"-isystem", "/p/build"⟩] ∧
    ¬ InCounted ["[includedirs]".toList, "../deps".toList, "[defines_fmt]".toList] ∧
    parse "[includedirs]\n../deps\n[defines_fmt]\nX=1" ⟨"/p/build"⟩ =
      parse "[includedirs]\n../deps\n[defines_fmt]\n\n Y\r\nZ" ⟨"/p/build"⟩ := by
  have hstarts : StartsWithHeader "\t\r\n [defines]\r\n A=[b] \n[includedirs]\n./x/.." := by
    decide
  have hinert : ¬ InCounted ["[includedirs]".toList, "../deps".toList, "[defines_fmt]".toList] := by
    decide
  refine ⟨hstarts, ?_, hinert, ?_⟩
  · rw [(parse_nearest_header ⟨"/p/build"⟩).2.2.1 _ _ hstarts]
    decide
  · exact (parse_nearest_header ⟨"/p/build"⟩).2.1 _ _ _ ["X=1".toList]
      [[], "Y".toList, "Z".toList] [] (by decide) (by decide) hinert
      (by decide)

end CompileFlags.BuildInfo
