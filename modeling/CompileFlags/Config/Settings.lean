import CompileFlags.Language
import CompileFlags.Toml.Value

set_option autoImplicit false

/-!
# Settings

The contents of a configuration file, section by section. Decoding overrides the defaults key by
key; a section or key that is not known here, and a value of another type, is refused. A section
may also be an array with the values of its keys in order.
-/

namespace CompileFlags

/-- What a section has for this key if it lacks it; so for each key below. -/
def defaultLang : Language := .cpp

def defaultDialect : Dialect := .gnu

def defaultStd : String := "1z"

def defaultFrontend : String := "avr-gcc"

def defaultWarnings : List String :=
  ["-Wall", "-Wextra", "-Wno-attributes", "-Wno-gnu", "-Werror", "-pedantic-errors"]

def defaultLocals : List String := ["include"]

def defaultBuildInfoDir : String := "build"

structure LanguageSettings where
  lang : Language := defaultLang
  dialect : Dialect := defaultDialect
  std : String := defaultStd
deriving DecidableEq

structure CompilerSettings where
  frontend : String := defaultFrontend
deriving DecidableEq

structure FlagSettings where
  warnings : List String := defaultWarnings
deriving DecidableEq

structure IncludeSettings where
  locals : List String := defaultLocals
  external : List String := []
deriving DecidableEq

structure PathSettings where
  buildInfoDir : String := defaultBuildInfoDir
  databaseDir : Option String := none
deriving DecidableEq

structure Settings where
  language : LanguageSettings := {}
  compiler : CompilerSettings := {}
  flags : FlagSettings := {}
  includes : IncludeSettings := {}
  paths : PathSettings := {}
deriving DecidableEq

namespace Settings

def section? (names : List String) : Toml → Option (List (String × Toml))
  | .table fields => if fields.all fun f => names.contains f.1 then some fields else none
  | .array items => some (names.zip items)
  | _ => none

def read? {α : Type} (read : Toml → Option α) (fields : List (String × Toml)) (name : String)
    (default_ : α) : Option α :=
  match fields.lookup name with
  | none => some default_
  | some v => read v

/-- One of several names: as a string, or as the only name in a table, without contents. -/
def name? {α : Type} (ofName? : String → Option α) : Toml → Option α
  | .string s => ofName? s
  | .table [(s, .table [])] | .table [(s, .array [])] => ofName? s
  | _ => none

def language? (t : Toml) : Option LanguageSettings := do
  let fields ← section? ["lang", "dialect", "std"] t
  return {
    lang := ← read? (name? Language.ofName?) fields "lang" defaultLang
    dialect := ← read? (name? Dialect.ofName?) fields "dialect" defaultDialect
    std := ← read? Toml.text? fields "std" defaultStd }

def compiler? (t : Toml) : Option CompilerSettings := do
  let fields ← section? ["frontend"] t
  return { frontend := ← read? Toml.text? fields "frontend" defaultFrontend }

def flags? (t : Toml) : Option FlagSettings := do
  let fields ← section? ["warnings"] t
  return { warnings := ← read? Toml.texts? fields "warnings" defaultWarnings }

def includes? (t : Toml) : Option IncludeSettings := do
  let fields ← section? ["local", "external"] t
  return {
    locals := ← read? Toml.texts? fields "local" defaultLocals
    external := ← read? Toml.texts? fields "external" [] }

def paths? (t : Toml) : Option PathSettings := do
  let fields ← section? ["buildinfo_dir", "compdb_dir"] t
  return {
    buildInfoDir := ← read? Toml.text? fields "buildinfo_dir" defaultBuildInfoDir
    databaseDir := ← read? (fun v => v.text?.map some) fields "compdb_dir" none }

/-- An empty section has the defaults of its keys, a missing one those of the section: the same. -/
theorem empty_sections :
    language? (.table []) = some {} ∧ compiler? (.table []) = some {} ∧
      flags? (.table []) = some {} ∧ includes? (.table []) = some {} ∧
      paths? (.table []) = some {} :=
  ⟨rfl, rfl, rfl, rfl, rfl⟩

def ofToml? (t : Toml) : Option Settings := do
  let .table fields := t | none
  let fields ← section? ["language", "compiler", "flags", "includes", "paths"] (.table fields)
  return {
    language := ← read? language? fields "language" {}
    compiler := ← read? compiler? fields "compiler" {}
    flags := ← read? flags? fields "flags" {}
    includes := ← read? includes? fields "includes" {}
    paths := ← read? paths? fields "paths" {} }

theorem ofToml?_empty : ofToml? (.table []) = some {} := rfl

end Settings

end CompileFlags
