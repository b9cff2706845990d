import CompileFlags.Proofs.Resolution.Boundary

set_option autoImplicit false

/-!
# Commands as items

Behind the compiler and its launcher, the arguments of a command fall into items of one or two, read
from left to right in one way only. The flags of the command are those of its items, one item after
the other.
-/

namespace CompileFlags.Database

def Dashed (arg : String) : Prop :=
  ∃ rest, arg = "-" ++ rest

def NamesInput (file directory : Path) (arg : String) : Prop :=
  ¬ Dashed arg ∧ (directory.absolutize ⟨arg⟩).same file = true

/-- An argument with the one that it takes. -/
inductive Item where
  | compile
  | output (out : Option String)
  | joinedOutput (arg : String)
  | input (arg : String)
  | separate (switch : String) (dir : Option String)
  | joined (switch dir : String)
  | other (arg : String)
deriving DecidableEq

namespace Item

def words : Item → List String
  | compile => ["-c"]
  | output out => "-o" :: out.toList
  | joinedOutput arg | input arg | other arg => [arg]
  | separate switch dir => switch :: dir.toList
  | joined switch dir => [switch ++ dir]

def switches : List String := ["-I", "-isystem", "-idirafter", "-iquote"]

/-- What the arguments of an item look like. No other item looks like that. -/
def Valid (file directory : Path) : Item → Prop
  | compile | output _ => True
  | joinedOutput arg => arg ≠ "-o" ∧ ∃ out, arg = "-o" ++ out
  | input arg => NamesInput file directory arg
  | separate switch _ => switch ∈ switches
  | joined switch dir => switch ∈ switches ∧ dir ≠ ""
  | other arg => arg ≠ "-c" ∧ (∀ out, arg ≠ "-o" ++ out) ∧ ¬ NamesInput file directory arg ∧
      ∀ switch ∈ switches, ∀ dir, arg ≠ switch ++ dir

def IsOpen : Item → Prop
  | output none | separate _ none => True
  | _ => False

def tokens (directory : Path) : Item → List String
  | compile | output _ | joinedOutput _ | input _ => []
  | separate switch dir => switch :: dir.toList.map fun dir => (directory.absolutize ⟨dir⟩).text
  | joined switch dir => [switch, (directory.absolutize ⟨dir⟩).text]
  | other arg => [arg]

def flags (directory : Path) : Item → FlagList
  | compile | output _ | joinedOutput _ | input _ => []
  | separate switch none => [.bare switch]
  | separate switch (some dir) | joined switch dir =>
    [⟨switch, (directory.absolutize ⟨dir⟩).text⟩]
  | other arg => [.bare arg]

theorem words_ne_nil (item : Item) : item.words ≠ [] := by
  cases item <;> simp [words]

end Item

/-- The items of arguments, read from left to right. -/
inductive Reads (file directory : Path) : List String → List Item → Prop
  | nil : Reads file directory [] []
  | cons (item : Item) {rest : List String} {items : List Item}
      (hvalid : item.Valid file directory) (hopen : item.IsOpen → rest = [])
      (h : Reads file directory rest items) :
      Reads file directory (item.words ++ rest) (item :: items)

theorem isSwitch_iff {arg : String} : isSwitch arg = true ↔ Dashed arg := by
  constructor
  · intro h
    have hhead : arg.toList.head? = some '-' := by simpa [isSwitch] using h
    obtain ⟨rest, hrest⟩ := List.head?_eq_some_iff.1 hhead
    exact ⟨String.ofList rest, String.toList_injective (by simp [hrest])⟩
  · rintro ⟨rest, rfl⟩
    simp [isSwitch]

instance (arg : String) : Decidable (Dashed arg) :=
  decidable_of_iff _ isSwitch_iff

theorem Dashed.append {arg : String} (h : Dashed arg) (more : String) : Dashed (arg ++ more) := by
  obtain ⟨rest, rfl⟩ := h
  exact ⟨rest ++ more, String.append_assoc⟩

theorem isInput_iff {file directory : Path} {arg : String} :
    isInput file directory arg = true ↔ NamesInput file directory arg := by
  rw [isInput, NamesInput, ← isSwitch_iff]
  simp

theorem eq_append_of_after? {start arg rest : String} (h : after? start arg = some rest) :
    arg = start ++ rest := by
  unfold after? at h
  split at h
  · next hprefix =>
    have hrest : String.ofList (arg.toList.drop start.toList.length) = rest := by simpa using h
    apply String.toList_injective
    rw [← hrest, String.toList_append, String.toList_ofList]
    exact List.prefix_iff_eq_append.1 (List.isPrefixOf_iff_prefix.1 hprefix) |>.symm
  · cases h

theorem isJoinedOutput_iff {arg : String} :
    isJoinedOutput arg = true ↔ arg ≠ "-o" ∧ ∃ out, arg = "-o" ++ out := by
  constructor
  · intro h
    unfold isJoinedOutput at h
    split at h
    · next out hout =>
      refine ⟨fun ho => ?_, out, eq_append_of_after? hout⟩
      have hempty : out = "" := by
        rw [ho] at hout
        exact (Option.some.inj hout).symm
      simp [hempty] at h
    · cases h
  · rintro ⟨hne, out, rfl⟩
    have hout : out ≠ "" := by
      rintro rfl
      exact hne rfl
    simp [isJoinedOutput, after?_append, hout]

theorem isInput_eq_false {file directory : Path} {arg : String}
    (h : ¬ NamesInput file directory arg) : isInput file directory arg = false := by
  rwa [Bool.eq_false_iff, Ne, isInput_iff]

theorem isJoinedOutput_eq_false {arg : String} (h : ∀ out, arg ≠ "-o" ++ out) :
    isJoinedOutput arg = false := by
  rw [Bool.eq_false_iff, Ne, isJoinedOutput_iff]
  rintro ⟨-, out, hout⟩
  exact h out hout

theorem eq_append_of_joined? {arg switch dir : String} (h : joined? arg = some (switch, dir)) :
    arg = switch ++ dir :=
  eq_append_of_after? (joined?_eq_some h).2.1

theorem joined?_eq_none {arg : String}
    (h : ∀ switch ∈ includeSwitches, ∀ dir, arg ≠ switch ++ dir) : joined? arg = none := by
  rw [Option.eq_none_iff_forall_ne_some]
  rintro ⟨switch, dir⟩ hjoined
  exact h switch (joined?_switch_mem hjoined) dir (eq_append_of_joined? hjoined)

theorem joined?_append {switch dir : String} (hswitch : switch ∈ includeSwitches)
    (hdir : dir ≠ "") : joined? (switch ++ dir) = some (switch, dir) := by
  cases hjoined : joined? (switch ++ dir) with
  | none => exact absurd (rest_eq_of_joined?_eq_none hjoined hswitch rfl) hdir
  | some found =>
    obtain ⟨other, rest⟩ := found
    have hlists : switch.toList ++ dir.toList = other.toList ++ rest.toList := by
      simpa using congrArg String.toList (eq_append_of_joined? hjoined)
    have hother : other ∈ includeSwitches := (joined?_eq_some hjoined).1
    -- two beginnings of one text: the shorter one begins the longer one
    have hsame : other = switch := by
      rcases List.prefix_or_prefix_of_prefix (List.prefix_append switch.toList dir.toList)
        (hlists ▸ List.prefix_append other.toList rest.toList) with h | h
      · exact (includeSwitches_not_nested other hother switch hswitch
          (List.isPrefixOf_iff_prefix.2 h)).symm
      · exact includeSwitches_not_nested switch hswitch other hother
          (List.isPrefixOf_iff_prefix.2 h)
    subst hsame
    rw [String.toList_injective (List.append_cancel_left hlists)]

theorem dashed_of_include : ∀ switch ∈ includeSwitches, Dashed switch := by
  decide

theorem include_ne_output {switch : String} (hswitch : switch ∈ includeSwitches) (start : String)
    (hstart : start ∈ ["-c", "-o"]) (rest out : String) : switch ++ rest ≠ start ++ out := by
  intro h
  have hlist : switch.toList ++ rest.toList = start.toList ++ out.toList := by
    simpa using congrArg String.toList h
  simp only [includeSwitches, List.mem_cons, List.not_mem_nil, or_false] at hswitch hstart
  rcases hswitch with rfl | rfl | rfl | rfl <;> rcases hstart with rfl | rfl <;> simp at hlist

theorem isKept_of_include {switch : String} (h : switch ∈ includeSwitches) (file directory : Path)
    (rest : String) : IsKept file directory (switch ++ rest) where
  notCompile := by simpa using include_ne_output h "-c" (by simp) rest ""
  notOutput := by simpa using include_ne_output h "-o" (by simp) rest ""
  notJoinedOutput := isJoinedOutput_eq_false (include_ne_output h "-o" (by simp) rest)
  notInput := isInput_eq_false fun hinput => hinput.1 ((dashed_of_include switch h).append rest)

variable {file directory : Path} {args : List String} {items : List Item}

theorem Leaves.exists_reads {flags : FlagList} (h : Leaves file directory args flags) :
    ∃ items, Reads file directory args items ∧ flags = items.flatMap (Item.flags directory) := by
  induction h with
  | nil => exact ⟨[], .nil, rfl⟩
  | @dropped arg rest flags ho harg h ih =>
    obtain ⟨items, hreads, rfl⟩ := ih
    rcases harg with rfl | hout | hinput
    · exact ⟨.compile :: items, .cons .compile trivial nofun hreads, rfl⟩
    · exact ⟨.joinedOutput arg :: items,
        .cons (.joinedOutput arg) (isJoinedOutput_iff.1 hout) nofun hreads, rfl⟩
    · exact ⟨.input arg :: items, .cons (.input arg) (isInput_iff.1 hinput) nofun hreads, rfl⟩
  | @output out rest flags h ih =>
    obtain ⟨items, hreads, rfl⟩ := ih
    exact ⟨.output (some out) :: items, .cons (.output (some out)) trivial nofun hreads, rfl⟩
  | loneOutput => exact ⟨[.output none], .cons (.output none) trivial (fun _ => rfl) .nil, rfl⟩
  | @lone switch hkept hswitch =>
    exact ⟨[.separate switch none], .cons (.separate switch none) hswitch (fun _ => rfl) .nil, rfl⟩
  | @dir switch dir rest flags hkept hswitch h ih =>
    obtain ⟨items, hreads, rfl⟩ := ih
    exact ⟨.separate switch (some dir) :: items,
      .cons (.separate switch (some dir)) hswitch nofun hreads, rfl⟩
  | @joined arg switch dir rest flags hkept hswitch hjoined h ih =>
    obtain ⟨items, hreads, rfl⟩ := ih
    obtain ⟨hmem, -, hdir⟩ := joined?_eq_some hjoined
    rw [eq_append_of_joined? hjoined]
    exact ⟨.joined switch dir :: items, .cons (.joined switch dir) ⟨hmem, hdir⟩ nofun hreads, rfl⟩
  | @other arg rest flags hkept hswitch hjoined h ih =>
    obtain ⟨items, hreads, rfl⟩ := ih
    refine ⟨.other arg :: items, .cons (.other arg) ⟨hkept.notCompile, ?_, ?_, ?_⟩ nofun hreads, rfl⟩
    · intro out hout
      have houtput : isJoinedOutput arg = true :=
        isJoinedOutput_iff.2 ⟨hkept.notOutput, out, hout⟩
      simp [hkept.notJoinedOutput] at houtput
    · rw [← isInput_iff, hkept.notInput]
      decide
    · intro switch hmem dir harg
      have hdir : dir = "" := rest_eq_of_joined?_eq_none hjoined hmem harg
      rw [hdir, String.append_empty] at harg
      exact hswitch (harg ▸ hmem)

def itemsOf (file directory : Path) : List String → List Item
  | [] => []
  | arg :: rest =>
    if arg = "-c" then .compile :: itemsOf file directory rest
    else if arg = "-o" then
      match rest with
      | [] => [.output none]
      | out :: rest => .output (some out) :: itemsOf file directory rest
    else if isJoinedOutput arg then .joinedOutput arg :: itemsOf file directory rest
    else if isInput file directory arg then .input arg :: itemsOf file directory rest
    else if arg ∈ includeSwitches then
      match rest with
      | [] => [.separate arg none]
      | dir :: rest => .separate arg (some dir) :: itemsOf file directory rest
    else match joined? arg with
      | some (switch, dir) => .joined switch dir :: itemsOf file directory rest
      | none => .other arg :: itemsOf file directory rest

theorem itemsOf_of_isKept {arg : String} (h : IsKept file directory arg)
    (rest : List String) :
    itemsOf file directory (arg :: rest) =
      if arg ∈ includeSwitches then
        match rest with
        | [] => [.separate arg none]
        | dir :: rest => .separate arg (some dir) :: itemsOf file directory rest
      else match joined? arg with
        | some (switch, dir) => .joined switch dir :: itemsOf file directory rest
        | none => .other arg :: itemsOf file directory rest := by
  rw [itemsOf.eq_def]
  simp only [if_neg h.notCompile, if_neg h.notOutput, h.notJoinedOutput, h.notInput,
    Bool.false_eq_true, if_false]

theorem Item.Valid.isKept_other {arg : String} (h : (Item.other arg).Valid file directory) :
    IsKept file directory arg where
  notCompile := h.1
  notOutput := by simpa using h.2.1 ""
  notJoinedOutput := isJoinedOutput_eq_false h.2.1
  notInput := isInput_eq_false h.2.2.1

theorem NamesInput.ne {arg start : String} (h : NamesInput file directory arg)
    (hstart : Dashed start) : arg ≠ start := by
  rintro rfl
  exact h.1 hstart

theorem itemsOf_words_append {item : Item} {rest : List String}
    (hvalid : item.Valid file directory) (hopen : item.IsOpen → rest = []) :
    itemsOf file directory (item.words ++ rest) = item :: itemsOf file directory rest := by
  cases item with
  | compile =>
    rw [itemsOf.eq_def]
    rfl
  | output out =>
    rw [itemsOf.eq_def]
    cases out with
    | none => rw [hopen trivial]; rfl
    | some out => rfl
  | joinedOutput arg =>
    have hout : isJoinedOutput arg = true := isJoinedOutput_iff.2 hvalid
    have hc : arg ≠ "-c" := by
      rintro rfl
      exact absurd hout (by decide)
    rw [itemsOf.eq_def]
    simp only [Item.words, List.singleton_append, if_neg hc, if_neg hvalid.1, if_pos hout]
  | input arg =>
    have hinput : NamesInput file directory arg := hvalid
    have hc : arg ≠ "-c" := hinput.ne (by decide)
    have ho : arg ≠ "-o" := hinput.ne (by decide)
    have hout : isJoinedOutput arg = false :=
      isJoinedOutput_eq_false fun out => hinput.ne (Dashed.append (by decide) out)
    rw [itemsOf.eq_def]
    simp only [Item.words, List.singleton_append, if_neg hc, if_neg ho, hout, Bool.false_eq_true,
      if_false, if_pos (isInput_iff.2 hinput)]
  | separate switch dir =>
    have hkept : IsKept file directory switch := by
      simpa using isKept_of_include hvalid file directory ""
    have hmem : switch ∈ includeSwitches := hvalid
    have hread := itemsOf_of_isKept hkept (dir.toList ++ rest)
    rw [if_pos hmem] at hread
    cases dir with
    | none =>
      rw [hopen trivial] at hread ⊢
      exact hread
    | some dir => exact hread
  | joined switch dir =>
    obtain ⟨hmem, hdir⟩ := hvalid
    have hswitch : switch ++ dir ∉ includeSwitches := fun h => hdir (rest_eq_of_mem h hmem rfl)
    have hread := itemsOf_of_isKept (isKept_of_include hmem file directory dir) rest
    rw [if_neg hswitch, joined?_append hmem hdir] at hread
    exact hread
  | other arg =>
    have hinclude : ∀ switch ∈ includeSwitches, ∀ dir, arg ≠ switch ++ dir := hvalid.2.2.2
    have hswitch : arg ∉ includeSwitches := fun h => hinclude arg h "" (by simp)
    have hread := itemsOf_of_isKept hvalid.isKept_other rest
    rw [if_neg hswitch, joined?_eq_none hinclude] at hread
    exact hread

theorem Reads.itemsOf_eq (h : Reads file directory args items) :
    itemsOf file directory args = items := by
  induction h with
  | nil => rfl
  | cons item hvalid hopen h ih => rw [itemsOf_words_append hvalid hopen, ih]

theorem reads_iff : Reads file directory args items ↔ itemsOf file directory args = items := by
  refine ⟨Reads.itemsOf_eq, ?_⟩
  rintro rfl
  obtain ⟨items, hreads, -⟩ := (flagsOfArgs_leaves file directory args).exists_reads
  rwa [hreads.itemsOf_eq]

theorem Reads.flagsOfArgs_eq (h : Reads file directory args items) :
    flagsOfArgs file directory args = items.flatMap (Item.flags directory) := by
  obtain ⟨others, hreads, hflags⟩ := (flagsOfArgs_leaves file directory args).exists_reads
  rw [hflags, ← hreads.itemsOf_eq, h.itemsOf_eq]

theorem Reads.valid (h : Reads file directory args items) :
    ∀ item ∈ items, item.Valid file directory := by
  induction h with
  | nil => simp
  | cons item hvalid hopen h ih => simpa using ⟨hvalid, ih⟩

theorem Reads.eq_words (h : Reads file directory args items) : args = items.flatMap Item.words := by
  induction h with
  | nil => rfl
  | cons item hvalid hopen h ih => rw [List.flatMap_cons, ← ih]

theorem reads_words (hvalid : ∀ item ∈ items, item.Valid file directory)
    (hclosed : ∀ item ∈ items, ¬ item.IsOpen) :
    Reads file directory (items.flatMap Item.words) items := by
  induction items with
  | nil => exact .nil
  | cons item items ih =>
    have htail := ih (fun i hi => hvalid i (List.mem_cons_of_mem item hi))
      fun i hi => hclosed i (List.mem_cons_of_mem item hi)
    exact .cons item (hvalid item List.mem_cons_self)
      (fun h => absurd h (hclosed item List.mem_cons_self)) htail

theorem Reads.append {a b : List String} {others : List Item}
    (ha : Reads file directory a items) (hclosed : ∀ item ∈ items, ¬ item.IsOpen)
    (hb : Reads file directory b others) : Reads file directory (a ++ b) (items ++ others) := by
  -- on the items of the first half: none of them reaches into the second
  induction ha with
  | nil => exact hb
  | @cons item rest items hvalid hopen h ih =>
    rw [List.append_assoc]
    exact .cons item hvalid (fun h => absurd h (hclosed item List.mem_cons_self))
      (ih fun i hi => hclosed i (List.mem_cons_of_mem item hi))

/-- A command in two parts. The first argument and the plain ones behind it are the compiler and its
launcher; the items follow from the first dash on. -/
structure Parsed (file directory : Path) (argv run : List String) (items : List Item) : Prop where
  argv_eq : argv = run ++ items.flatMap Item.words
  run_ne_nil : argv ≠ [] → run ≠ []
  plain : ∀ arg ∈ run.tail, ¬ Dashed arg
  dashed : ∀ arg ∈ (items.flatMap Item.words).head?, Dashed arg
  reads : Reads file directory (items.flatMap Item.words) items

def runOf (argv : List String) : List String :=
  argv.take 1 ++ (argv.drop 1).takeWhile fun arg => !isSwitch arg

theorem parsed_itemsOf (file directory : Path) (argv : List String) :
    Parsed file directory argv (runOf argv) (itemsOf file directory (argsOfCommand argv)) := by
  have hreads : Reads file directory (argsOfCommand argv)
      (itemsOf file directory (argsOfCommand argv)) := reads_iff.2 rfl
  have hwords := hreads.eq_words
  constructor
  case argv_eq =>
    rw [← hwords, runOf, argsOfCommand, List.append_assoc, List.takeWhile_append_dropWhile,
      List.take_append_drop]
  case run_ne_nil =>
    intro hargv
    obtain ⟨first, rest, rfl⟩ := List.exists_cons_of_ne_nil hargv
    simp [runOf]
  case plain =>
    intro arg harg
    have hmem : arg ∈ (argv.drop 1).takeWhile fun arg => !isSwitch arg := by
      cases argv with
      | nil => simp [runOf] at harg
      | cons first rest => simpa [runOf] using harg
    have hplain := List.all_eq_true.1 List.all_takeWhile arg hmem
    rw [← isSwitch_iff]
    simpa using hplain
  case dashed =>
    intro arg harg
    rw [← hwords, argsOfCommand] at harg
    have hhead := List.head?_dropWhile_not (fun arg => !isSwitch arg) (argv.drop 1)
    rw [Option.mem_def.1 harg] at hhead
    exact isSwitch_iff.1 (by simpa using hhead)
  case reads => rwa [← hwords]

variable {argv run : List String}

theorem Parsed.argsOfCommand_eq (h : Parsed file directory argv run items) :
    argsOfCommand argv = items.flatMap Item.words := by
  cases run with
  | nil =>
    have hargv : argv = [] := Decidable.byContradiction fun hne => h.run_ne_nil hne rfl
    have hwords := h.argv_eq
    rw [hargv] at hwords
    rw [hargv]
    exact hwords
  | cons first more =>
    have hplain : ∀ arg ∈ more, (!isSwitch arg) = true := by
      intro arg harg
      have harg := h.plain arg harg
      rw [← isSwitch_iff] at harg
      simpa using harg
    rw [h.argv_eq]
    change List.dropWhile _ (more ++ _) = _
    rw [List.dropWhile_append_of_pos hplain]
    cases hwords : items.flatMap Item.words with
    | nil => rfl
    | cons arg rest =>
      have hdashed : isSwitch arg = true := isSwitch_iff.2 (h.dashed arg (by rw [hwords]; rfl))
      exact List.dropWhile_cons_of_neg (by simpa using hdashed)

theorem Parsed.unique {run' : List String} {items' : List Item}
    (h : Parsed file directory argv run items) (h' : Parsed file directory argv run' items') :
    run' = run ∧ items' = items := by
  have hwords : items'.flatMap Item.words = items.flatMap Item.words :=
    h'.argsOfCommand_eq.symm.trans h.argsOfCommand_eq
  constructor
  · have hargv := h'.argv_eq.symm.trans h.argv_eq
    rw [hwords] at hargv
    exact List.append_cancel_right hargv
  · rw [← h'.reads.itemsOf_eq, hwords, h.reads.itemsOf_eq]

theorem parsed_iff :
    Parsed file directory argv run items ↔
      runOf argv = run ∧ itemsOf file directory (argsOfCommand argv) = items := by
  refine ⟨fun h => h.unique (parsed_itemsOf file directory argv), ?_⟩
  rintro ⟨rfl, rfl⟩
  exact parsed_itemsOf file directory argv

theorem Parsed.flagsOfCommand_eq (h : Parsed file directory argv run items) :
    flagsOfCommand argv file directory = items.flatMap (Item.flags directory) := by
  rw [flagsOfCommand, h.argsOfCommand_eq, h.reads.flagsOfArgs_eq]

theorem Item.Valid.tokens_flags {item : Item} (h : item.Valid file directory) :
    FlagList.tokens (item.flags directory) = item.tokens directory := by
  have hinclude : ∀ switch dir, switch ∈ includeSwitches →
      FlagList.tokens [⟨switch, (directory.absolutize ⟨dir⟩).text⟩] =
        [switch, (directory.absolutize ⟨dir⟩).text] := by
    intro switch dir hswitch
    rw [FlagList.tokens, List.flatMap_singleton]
    exact tokens_of_valueSwitch (mem_valueSwitches_of_include hswitch)
      (Path.normalize_text_ne_empty _)
  cases item with
  | compile | output _ | joinedOutput _ | input _ => rfl
  | separate switch dir =>
    cases dir with
    | none => exact tokens_bare_cons switch []
    | some dir => exact hinclude switch dir h
  | joined switch dir => exact hinclude switch dir h.1
  | other arg => exact tokens_bare_cons arg []

theorem tokens_flags (h : ∀ item ∈ items, item.Valid file directory) :
    FlagList.tokens (items.flatMap (Item.flags directory)) =
      items.flatMap (Item.tokens directory) := by
  induction items with
  | nil => rfl
  | cons item items ih =>
    rw [List.flatMap_cons, List.flatMap_cons, FlagList.tokens_append,
      (h item List.mem_cons_self).tokens_flags, ih fun i hi => h i (List.mem_cons_of_mem item hi)]

theorem argsOfCommand_compile (cc : String) (args : List String) :
    argsOfCommand (cc :: "-c" :: args) = "-c" :: args :=
  List.dropWhile_cons_of_neg (by decide)

/-- The tokens of a command are those of its items, in order, and it falls into items in one way
only. A command that is cut between two items is the two halves one after the other. -/
theorem flagsOfCommand_tokens (argv : List String) (file directory : Path) :
    (∃ run items, Parsed file directory argv run items ∧
      (∀ run' items', Parsed file directory argv run' items' → run' = run ∧ items' = items) ∧
      (flagsOfCommand argv file directory).tokens = items.flatMap (Item.tokens directory)) ∧
    ∀ (cc : String) (a b : List String) (items : List Item),
      Reads file directory a items → (∀ item ∈ items, ¬ item.IsOpen) →
      flagsOfCommand (cc :: "-c" :: (a ++ b)) file directory =
        flagsOfCommand (cc :: "-c" :: a) file directory ++
          flagsOfCommand (cc :: "-c" :: b) file directory := by
  constructor
  · have hparsed := parsed_itemsOf file directory argv
    refine ⟨_, _, hparsed, fun run items h => hparsed.unique h, ?_⟩
    rw [hparsed.flagsOfCommand_eq, tokens_flags hparsed.reads.valid]
  · intro cc a b items ha hclosed
    have hb : Reads file directory b (itemsOf file directory b) := reads_iff.2 rfl
    have hcompile : ∀ args, flagsOfCommand (cc :: "-c" :: args) file directory =
        flagsOfArgs file directory args := by
      intro args
      rw [flagsOfCommand, argsOfCommand_compile, flagsOfArgs.eq_def]
      rfl
    rw [hcompile, hcompile, hcompile, (ha.append hclosed hb).flagsOfArgs_eq, ha.flagsOfArgs_eq,
      hb.flagsOfArgs_eq, List.flatMap_append]

/-- Values that look like switches, a switch that takes nothing, spellings of the input, an empty
argument. -/
theorem flagsOfCommand_tokens_mixed :
    (flagsOfCommand ["ccache", "g++", "-idirafter", "../gen", "-I", "-c", "-o", "-Wall", "-c", "-ob",
      "src/../a.c", "/p/a.c", "-Iinc", "", "-iquote"] ⟨"/p/a.c"⟩ ⟨"/p"⟩).tokens =
        ["-idirafter", "/gen", "-I", "/p/-c", "-I", "/p/inc", "", "-iquote"] ∧
    flagsOfCommand ["g++", "-c", "-I", "-c", "-Wall"] ⟨"/p/a.c"⟩ ⟨"/p"⟩ =
      flagsOfCommand ["g++", "-c", "-I", "-c"] ⟨"/p/a.c"⟩ ⟨"/p"⟩ ++
        flagsOfCommand ["g++", "-c", "-Wall"] ⟨"/p/a.c"⟩ ⟨"/p"⟩ := by
  constructor
  · obtain ⟨run, items, -, hunique, htokens⟩ := (flagsOfCommand_tokens ["ccache", "g++",
      "-idirafter", "../gen", "-I", "-c", "-o", "-Wall", "-c", "-ob", "src/../a.c", "/p/a.c", "-Iinc",
      "", "-iquote"] ⟨"/p/a.c"⟩ ⟨"/p"⟩).1
    obtain ⟨-, rfl⟩ := hunique _ _ (parsed_itemsOf _ _ _)
    rw [htokens]
    decide +kernel
  · have hreads : Reads ⟨"/p/a.c"⟩ ⟨"/p"⟩ ["-I", "-c"] [.separate "-I" (some "-c")] :=
      reads_iff.2 (by decide)
    exact (flagsOfCommand_tokens [] ⟨"/p/a.c"⟩ ⟨"/p"⟩).2 "g++" ["-I", "-c"] ["-Wall"] _ hreads
      (by simp [Item.IsOpen])

end CompileFlags.Database
