import CompileFlags.Database.Basic

set_option autoImplicit false

namespace CompileFlags.Database

/-- The command of an entry as a list of arguments. -/
inductive Entry.Argv (e : Entry) : List String → Prop
  | arguments {argv : List String} (h : e.arguments = some argv) : e.Argv argv
  | command {text : String} (hnone : e.arguments = none) (h : e.command = some text) :
      e.Argv (Shell.splitCommand text)

def Entry.Records (e : Entry) (base q : Path) : Prop :=
  (e.arguments.isSome = true ∨ e.command.isSome = true) ∧ (e.key base).shape = q.shape

inductive FirstRecord (base q : Path) (entries : List Entry) : Option FlagList → Prop
  | none (h : ∀ e ∈ entries, ¬ e.Records base q) : FirstRecord base q entries none
  | some {before after : List Entry} {e : Entry} {argv : List String}
      (hsplit : entries = before ++ e :: after) (hbefore : ∀ d ∈ before, ¬ d.Records base q)
      (hrecords : e.Records base q) (hargv : e.Argv argv) :
      FirstRecord base q entries (some (flagsOfCommand argv (e.key base) (e.workDir base)))

def Reordered (base : Path) (entries others : List Entry) : Prop :=
  entries.Perm others ∧ ∀ q : Path,
    entries.filter (fun e => (e.key base).same q) = others.filter (fun e => (e.key base).same q)

theorem same_congr {p q : Path} (h : p.same q = true) (r : Path) : r.same p = r.same q := by
  have hshape : p.shape = q.shape := by simpa [Path.same] using h
  simp [Path.same, hshape]

theorem find?_congr (db : Database) {p q : Path} (h : p.same q = true) :
    find? db p = find? db q := by
  simp only [find?, same_congr h]

theorem find?_add (db : Database) (file q : Path) (flags : FlagList) :
    find? (add db file flags) q =
      (find? db q).or (if file.same q then some flags else none) := by
  unfold add
  split
  · next hsome =>
    by_cases hq : file.same q = true
    · obtain ⟨old, hold⟩ := Option.isSome_iff_exists.1 hsome
      have hqold : find? db q = some old := by rw [← find?_congr db hq, hold]
      simp [hqold]
    · simp [hq]
  · unfold find?
    rw [List.find?_append, Option.map_or]
    by_cases hq : file.same q = true <;> simp [hq]

def Entry.answer? (base q : Path) (e : Entry) : Option FlagList :=
  if (e.key base).same q then e.flags? base else none

theorem find?_addEntry (base q : Path) (db : Database) (e : Entry) :
    find? (addEntry base db e).value q = (find? db q).or (e.answer? base q) := by
  unfold addEntry Entry.answer?
  cases hflags : e.flags? base with
  | none => simp
  | some flags => exact find?_add db (e.key base) q flags

theorem find?_foldlM (base q : Path) (entries : List Entry) (db : Database) :
    find? (entries.foldlM (addEntry base) db).value q =
      (find? db q).or (entries.findSome? (Entry.answer? base q)) := by
  induction entries generalizing db with
  | nil => simp
  | cons e entries ih =>
    rw [List.foldlM_cons, Logged.value_bind, ih, find?_addEntry, List.findSome?_cons,
      Option.or_assoc]
    cases e.answer? base q with
    | none => rw [Option.none_or]
    | some flags => rw [Option.some_or]

theorem find?_ofEntries (base q : Path) (entries : List Entry) :
    find? (ofEntries base entries).value q = entries.findSome? (Entry.answer? base q) := by
  have h := find?_foldlM base q entries []
  rw [find?_nil, Option.none_or] at h
  exact h

theorem Entry.argv?_eq_some_iff {e : Entry} {argv : List String} :
    e.argv? = some argv ↔ e.Argv argv := by
  unfold Entry.argv?
  constructor
  · intro h
    cases harguments : e.arguments with
    | some given =>
      have hargv : given = argv := by simpa [harguments] using h
      exact .arguments (by rw [harguments, hargv])
    | none =>
      cases hcommand : e.command with
      | none => simp [harguments, hcommand] at h
      | some text =>
        have hargv : Shell.splitCommand text = argv := by simpa [harguments, hcommand] using h
        rw [← hargv]
        exact .command harguments hcommand
  · intro h
    cases h with
    | arguments h => simp [h]
    | command hnone h => simp [hnone, h]

theorem Entry.argv?_eq_none_iff {e : Entry} :
    e.argv? = none ↔ ¬ (e.arguments.isSome = true ∨ e.command.isSome = true) := by
  unfold Entry.argv?
  cases e.arguments <;> cases e.command <;> simp

theorem Entry.answer?_eq_none_iff {base q : Path} {e : Entry} :
    e.answer? base q = none ↔ ¬ e.Records base q := by
  unfold Entry.answer? Entry.Records Entry.flags?
  by_cases hkey : (e.key base).shape = q.shape
  · simp [Path.same, hkey, Entry.argv?_eq_none_iff]
  · simp [Path.same, hkey]

theorem Entry.answer?_eq_some_iff {base q : Path} {e : Entry} {flags : FlagList} :
    e.answer? base q = some flags ↔ e.Records base q ∧ ∃ argv, e.Argv argv ∧
      flagsOfCommand argv (e.key base) (e.workDir base) = flags := by
  constructor
  · intro h
    have hrecords : e.Records base q := by
      by_cases hr : e.Records base q
      · exact hr
      · rw [Entry.answer?_eq_none_iff.2 hr] at h
        contradiction
    have hkey : (e.key base).same q = true := by simpa [Path.same] using hrecords.2
    rw [Entry.answer?, if_pos hkey] at h
    obtain ⟨argv, hargv, hflags⟩ := Option.map_eq_some_iff.1 h
    exact ⟨hrecords, argv, Entry.argv?_eq_some_iff.1 hargv, hflags⟩
  · rintro ⟨hrecords, argv, hargv, rfl⟩
    have hkey : (e.key base).same q = true := by simpa [Path.same] using hrecords.2
    rw [Entry.answer?, if_pos hkey, Entry.flags?, Entry.argv?_eq_some_iff.2 hargv]
    rfl

theorem findSome?_answer?_eq_iff {base q : Path} {entries : List Entry} {r : Option FlagList} :
    entries.findSome? (Entry.answer? base q) = r ↔ FirstRecord base q entries r := by
  constructor
  · rintro rfl
    cases hfound : entries.findSome? (Entry.answer? base q) with
    | none =>
      refine .none fun e he => Entry.answer?_eq_none_iff.1 ?_
      exact List.findSome?_eq_none_iff.1 hfound e he
    | some flags =>
      obtain ⟨before, e, after, hsplit, hanswer, hbefore⟩ := List.findSome?_eq_some_iff.1 hfound
      obtain ⟨hrecords, argv, hargv, rfl⟩ := Entry.answer?_eq_some_iff.1 hanswer
      exact .some hsplit (fun d hd => Entry.answer?_eq_none_iff.1 (hbefore d hd)) hrecords hargv
  · intro h
    cases h with
    | none h =>
      rw [List.findSome?_eq_none_iff]
      exact fun e he => Entry.answer?_eq_none_iff.2 (h e he)
    | some hsplit hbefore hrecords hargv =>
      rw [List.findSome?_eq_some_iff]
      exact ⟨_, _, _, hsplit, Entry.answer?_eq_some_iff.2 ⟨hrecords, _, hargv, rfl⟩,
        fun d hd => Entry.answer?_eq_none_iff.2 (hbefore d hd)⟩

theorem findSome?_answer?_eq_filter (base q : Path) (entries : List Entry) :
    entries.findSome? (Entry.answer? base q) =
      (entries.filter fun e => (e.key base).same q).findSome? (fun e => e.flags? base) := by
  induction entries with
  | nil => rfl
  | cons e entries ih =>
    rw [List.findSome?_cons, ih]
    by_cases hkey : (e.key base).same q = true
    · rw [List.filter_cons, if_pos hkey, List.findSome?_cons, Entry.answer?, if_pos hkey]
    · rw [List.filter_cons, if_neg hkey, Entry.answer?, if_neg hkey]

theorem Reordered.swap {base : Path} {d e : Entry} (h : (d.key base).shape ≠ (e.key base).shape)
    (before after : List Entry) :
    Reordered base (before ++ d :: e :: after) (before ++ e :: d :: after) := by
  refine ⟨(List.Perm.swap e d after).append_left before, fun q => ?_⟩
  rw [List.filter_append, List.filter_append]
  apply congrArg (before.filter (fun c => (c.key base).same q) ++ ·)
  by_cases hd : (d.key base).shape = q.shape
  · have he : (e.key base).shape ≠ q.shape := fun he => h (hd.trans he.symm)
    simp [Path.same, hd, he]
  · simp [Path.same, List.filter_cons, hd]

/-- The first entry that has a command and the components of the query answers it; entries behind
the others answer only what those leave open; entries of different keys may stand in any order. -/
theorem find?_ofEntries_first (base : Path) (entries : List Entry) :
    (∀ (q : Path) (r : Option FlagList),
      find? (ofEntries base entries).value q = r ↔ FirstRecord base q entries r) ∧
    (∀ (q : Path) (more : List Entry), find? (ofEntries base (entries ++ more)).value q =
      (find? (ofEntries base entries).value q).or (find? (ofEntries base more).value q)) ∧
    (∀ others : List Entry, Reordered base entries others → ∀ q : Path,
      find? (ofEntries base others).value q = find? (ofEntries base entries).value q) := by
  refine ⟨?_, ?_, ?_⟩
  · intro q r
    rw [find?_ofEntries]
    exact findSome?_answer?_eq_iff
  · intro q more
    simp only [find?_ofEntries, List.findSome?_append]
  · intro others hreordered q
    simp only [find?_ofEntries, findSome?_answer?_eq_filter, hreordered.2 q]

/-- Behind an entry without a command and the one that counts, a shadowed entry and an entry of
another file change places. -/
theorem find?_ofEntries_first_exchange :
    find? (ofEntries ⟨"/"⟩ [⟨"/b", "x.c", none, none⟩, ⟨"/b", "x.c", some ["cc", "-DA"], none⟩,
      ⟨"b", "/y.c", none, some "cc -DB"⟩, ⟨"b/c", "../x.c", some ["cc", "-DOLD"], none⟩]).value
      ⟨"/b/./x.c"⟩ = some [.bare "-DA"] := by
  let front : List Entry := [⟨"/b", "x.c", none, none⟩, ⟨"/b", "x.c", some ["cc", "-DA"], none⟩]
  let other : Entry := ⟨"b", "/y.c", none, some "cc -DB"⟩
  let shadowed : Entry := ⟨"b/c", "../x.c", some ["cc", "-DOLD"], none⟩
  have hkeys : (shadowed.key ⟨"/"⟩).shape ≠ (other.key ⟨"/"⟩).shape := by decide
  exact ((find?_ofEntries_first ⟨"/"⟩ _).2.2 _ (Reordered.swap hkeys front []) _).trans
    (by decide +kernel)

end CompileFlags.Database
