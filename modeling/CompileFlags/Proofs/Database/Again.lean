import CompileFlags.Proofs.Database.Items

set_option autoImplicit false

namespace CompileFlags.Database

def Item.again? (directory : Path) : Item → Option Item
  | compile | output _ | joinedOutput _ | input _ => none
  | separate switch dir =>
    some (.separate switch (dir.map fun dir => (directory.absolutize ⟨dir⟩).text))
  | joined switch dir => some (.separate switch (some (directory.absolutize ⟨dir⟩).text))
  | other arg => some (.other arg)

variable {file directory : Path} {args argv : List String} {items : List Item}

theorem Item.again?_eq_none {item : Item} (h : item.again? directory = none) :
    item.tokens directory = [] ∧ item.flags directory = [] := by
  cases item with
  | compile | output _ | joinedOutput _ | input _ => exact ⟨rfl, rfl⟩
  | separate _ _ | joined _ _ | other _ => cases h

theorem Item.again?_words {item other : Item} (h : item.again? directory = some other) :
    other.words = item.tokens directory := by
  cases item with
  | compile | output _ | joinedOutput _ | input _ => cases h
  | separate _ dir =>
    cases h
    cases dir <;> rfl
  | joined _ _ | other _ =>
    cases h
    rfl

theorem Item.again?_valid {item other : Item} (h : item.again? directory = some other)
    (hvalid : item.Valid file directory) : other.Valid file directory := by
  cases item with
  | compile | output _ | joinedOutput _ | input _ => cases h
  | separate _ _ | other _ =>
    cases h
    exact hvalid
  | joined _ _ =>
    cases h
    exact hvalid.1

theorem Item.again?_isOpen {item other : Item} (h : item.again? directory = some other)
    (hopen : other.IsOpen) : item.IsOpen := by
  cases item with
  | compile | output _ | joinedOutput _ | input _ => cases h
  | separate _ dir =>
    cases h
    cases dir with
    | none => trivial
    | some _ => exact hopen.elim
  | joined _ _ | other _ =>
    cases h
    exact hopen.elim

theorem Item.again?_flags (habsolute : directory.isAbsolute = true) {item other : Item}
    (h : item.again? directory = some other) : other.flags directory = item.flags directory := by
  cases item with
  | compile | output _ | joinedOutput _ | input _ => cases h
  | separate _ dir =>
    cases h
    cases dir with
    | none => rfl
    | some dir => simp only [Option.map_some, Item.flags, Path.absolutize_absolutize habsolute]
  | joined _ _ =>
    cases h
    simp only [Item.flags, Path.absolutize_absolutize habsolute]
  | other _ =>
    cases h
    rfl

/-- The tokens that items leave are read one item after the other: an item that takes nothing comes
last among them, as it did before. -/
theorem Reads.again (h : Reads file directory args items) :
    Reads file directory (items.flatMap (Item.tokens directory))
      (items.filterMap (Item.again? directory)) := by
  induction h with
  | nil => exact .nil
  | @cons item rest items hvalid hopen h ih =>
    cases hagain : item.again? directory with
    | none =>
      rw [List.flatMap_cons, (Item.again?_eq_none hagain).1, List.filterMap_cons_none hagain]
      exact ih
    | some other =>
      rw [List.flatMap_cons, ← Item.again?_words hagain, List.filterMap_cons_some hagain]
      refine .cons other (Item.again?_valid hagain hvalid) (fun hother => ?_) ih
      have hrest : rest = [] := hopen (Item.again?_isOpen hagain hother)
      subst hrest
      rw [← h.itemsOf_eq]
      rfl

theorem flatMap_flags_again (habsolute : directory.isAbsolute = true) (items : List Item) :
    (items.filterMap (Item.again? directory)).flatMap (Item.flags directory) =
      items.flatMap (Item.flags directory) := by
  induction items with
  | nil => rfl
  | cons item items ih =>
    cases hagain : item.again? directory with
    | none =>
      rw [List.filterMap_cons_none hagain, List.flatMap_cons, (Item.again?_eq_none hagain).2, ih]
      rfl
    | some other =>
      rw [List.filterMap_cons_some hagain, List.flatMap_cons, List.flatMap_cons,
        Item.again?_flags habsolute hagain, ih]

/-- A command that is written from the flags of another one leaves those flags, each with its own
switch and value. -/
theorem flagsOfCommand_again (habsolute : directory.isAbsolute = true) (argv : List String)
    (file : Path) (cc : String) :
    flagsOfCommand (cc :: "-c" :: (flagsOfCommand argv file directory).tokens) file directory =
      flagsOfCommand argv file directory := by
  have hparsed := parsed_itemsOf file directory argv
  have hreads : Reads file directory _ _ := .cons .compile trivial nofun hparsed.reads.again
  rw [hparsed.flagsOfCommand_eq, tokens_flags hparsed.reads.valid, flagsOfCommand,
    argsOfCommand_compile]
  exact hreads.flagsOfArgs_eq.trans (flatMap_flags_again habsolute _)

theorem flagsOfCommand_again_mixed :
    (Path.mk "/p").isAbsolute = true ∧
    flagsOfCommand ["ccache", "g++", "-include", "a.c", "-o", "-I", "-Iinc", "", "-c", "-isystem", "-o",
      "-D", "-oa", "X", "-iquote"] ⟨"/p/a.c"⟩ ⟨"/p"⟩ = [.bare "-include", ⟨"-I", "/p/inc"⟩, .bare "",
        ⟨"-isystem", "/p/-o"⟩, .bare "-D", .bare "X", .bare "-iquote"] ∧
    flagsOfCommand ["clang", "-c", "-include", "-I", "/p/inc", "", "-isystem", "/p/-o", "-D", "X",
      "-iquote"] ⟨"/p/a.c"⟩ ⟨"/p"⟩ = [.bare "-include", ⟨"-I", "/p/inc"⟩, .bare "",
        ⟨"-isystem", "/p/-o"⟩, .bare "-D", .bare "X", .bare "-iquote"] := by
  have habsolute : (Path.mk "/p").isAbsolute = true := by decide
  have hflags : flagsOfCommand ["ccache", "g++", "-include", "a.c", "-o", "-I", "-Iinc", "", "-c",
      "-isystem", "-o", "-D", "-oa", "X", "-iquote"] ⟨"/p/a.c"⟩ ⟨"/p"⟩ = [.bare "-include",
        ⟨"-I", "/p/inc"⟩, .bare "", ⟨"-isystem", "/p/-o"⟩, .bare "-D", .bare "X", .bare "-iquote"] := by
    decide
  have hagain := flagsOfCommand_again habsolute ["ccache", "g++", "-include", "a.c", "-o", "-I", "-Iinc",
    "", "-c", "-isystem", "-o", "-D", "-oa", "X", "-iquote"] ⟨"/p/a.c"⟩ "clang"
  rw [hflags] at hagain
  exact ⟨habsolute, hflags, hagain⟩

end CompileFlags.Database
