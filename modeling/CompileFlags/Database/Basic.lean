import CompileFlags.Database.Entry
import CompileFlags.Database.Recorded
import CompileFlags.Event
import CompileFlags.Shell.Words

set_option autoImplicit false

namespace CompileFlags

abbrev Database := List (Path × FlagList)

namespace Database

def Entry.workDir (e : Entry) (base : Path) : Path :=
  base.absolutize ⟨e.directory⟩

def Entry.key (e : Entry) (base : Path) : Path :=
  (e.workDir base).absolutize ⟨e.file⟩

/-- The recorded command. A list of arguments, even an empty one, comes before a command text. -/
def Entry.argv? (e : Entry) : Option (List String) :=
  e.arguments <|> e.command.map Shell.splitCommand

def Entry.flags? (e : Entry) (base : Path) : Option FlagList :=
  e.argv?.map fun argv => flagsOfCommand argv (e.key base) (e.workDir base)

def find? (db : Database) (file : Path) : Option FlagList :=
  (List.find? (fun record => record.1.same file) db).map (·.2)

def add (db : Database) (file : Path) (flags : FlagList) : Database :=
  if (find? db file).isSome then db else db ++ [(file, flags)]

def addEntry (base : Path) (db : Database) (e : Entry) : Logged Database :=
  match e.flags? base with
  | some flags => return add db (e.key base) flags
  | none => do
    .note (.entrySkipped (e.key base))
    return db

/-- The database of some entries; `base` is where relative directories are read from. -/
def ofEntries (base : Path) (entries : List Entry) : Logged Database := do
  let db ← entries.foldlM (addEntry base) []
  .note (.databaseLoaded db.length)
  return db

def parse (base : Path) (content : String) : Logged (Except FlagFault Database) :=
  match entries? content with
  | none => return .error (.database .malformed)
  | some entries => return .ok (← ofEntries base entries)

theorem value_parse (base : Path) (content : String) :
    (parse base content).value =
      match entries? content with
      | none => .error (.database .malformed)
      | some entries => .ok (ofEntries base entries).value := by
  unfold parse
  cases entries? content with
  | none => rfl
  | some entries => rfl

theorem find?_nil (file : Path) : find? [] file = none := rfl

end Database

end CompileFlags
