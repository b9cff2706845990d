import CompileFlags.Config.Settings
import Mathlib.Data.List.Basic

set_option autoImplicit false

/-!
# What settings a document has

A document is accepted if its keys are known and their values have the right types. Each of the
nine settings is then the document's value under its key, or the default, whatever else stands in
the document: a section that is missing counts as an empty one.
-/

namespace CompileFlags.Settings

inductive Key where
  | lang
  | dialect
  | std
  | frontend
  | warnings
  | locals
  | external
  | buildInfoDir
  | databaseDir
deriving DecidableEq

namespace Key

def sectionName : Key → String
  | .lang | .dialect | .std => "language"
  | .frontend => "compiler"
  | .warnings => "flags"
  | .locals | .external => "includes"
  | .buildInfoDir | .databaseDir => "paths"

def name : Key → String
  | .lang => "lang"
  | .dialect => "dialect"
  | .std => "std"
  | .frontend => "frontend"
  | .warnings => "warnings"
  | .locals => "local"
  | .external => "external"
  | .buildInfoDir => "buildinfo_dir"
  | .databaseDir => "compdb_dir"

def all : List Key :=
  [.lang, .dialect, .std, .frontend, .warnings, .locals, .external, .buildInfoDir, .databaseDir]

theorem mem_all (k : Key) : k ∈ all := by
  cases k <;> decide

def ofSection (sectionName : String) : List Key :=
  all.filter fun k => k.sectionName = sectionName

theorem mem_ofSection {k : Key} {sectionName : String} :
    k ∈ ofSection sectionName ↔ k.sectionName = sectionName := by
  simp [ofSection, mem_all]

theorem eq_of_names {k l : Key} (hsection : k.sectionName = l.sectionName)
    (hname : k.name = l.name) : k = l := by
  have hall : ∀ k ∈ all, ∀ l ∈ all, k.sectionName = l.sectionName → k.name = l.name → k = l := by
    decide
  exact hall k (mem_all k) l (mem_all l) hsection hname

def Admits : Key → Toml → Prop
  | .lang, v => v = .string "c" ∨ v = .string "c++"
  | .dialect, v => v = .string "iso" ∨ v = .string "gnu"
  | .std, v | .frontend, v | .buildInfoDir, v | .databaseDir, v => ∃ s, v = .string s
  | .warnings, v | .locals, v | .external, v => ∃ ss : List String, v = .array (ss.map .string)

end Key

def inside (fields : List (String × Toml)) (name : String) : List (String × Toml) :=
  match fields.lookup name with
  | some (.table inner) => inner
  | _ => []

def Key.find? (k : Key) (fields : List (String × Toml)) : Option Toml :=
  (inside fields k.sectionName).lookup k.name

def value? (s : Settings) : Key → Option Toml
  | .lang => some (.string s.language.lang.name)
  | .dialect => some (.string s.language.dialect.name)
  | .std => some (.string s.language.std)
  | .frontend => some (.string s.compiler.frontend)
  | .warnings => some (.array (s.flags.warnings.map .string))
  | .locals => some (.array (s.includes.locals.map .string))
  | .external => some (.array (s.includes.external.map .string))
  | .buildInfoDir => some (.string s.paths.buildInfoDir)
  | .databaseDir => s.paths.databaseDir.map .string

/-- The sections and keys of a document are known, and the values have the types of their keys. -/
structure Accepted (fields : List (String × Toml)) : Prop where
  sections : ∀ name v, fields.lookup name = some v → ∃ k : Key, k.sectionName = name
  keys : ∀ name inner, fields.lookup name = some (.table inner) →
    ∀ key v, inner.lookup key = some v →
      ∃ k : Key, k.sectionName = name ∧ k.name = key ∧ k.Admits v

variable {fields inner : List (String × Toml)}

theorem text?_eq_some_iff {v : Toml} {s : String} : v.text? = some s ↔ v = .string s := by
  cases v <;> simp [Toml.text?]

theorem texts?_eq_some_iff {v : Toml} {ss : List String} :
    v.texts? = some ss ↔ v = .array (ss.map .string) := by
  have hitems : ∀ items : List Toml, items.mapM Toml.text? = some ss ↔
      items = ss.map .string := by
    intro items
    induction items generalizing ss with
    | nil => cases ss <;> simp
    | cons item items ih =>
      cases ss with
      | nil => simp [List.mapM_cons, Option.bind_eq_some_iff]
      | cons s ss =>
        simp [List.mapM_cons, Option.bind_eq_some_iff, text?_eq_some_iff, ih]
  cases v with
  | array items => simp [Toml.texts?, hitems]
  | _ => simp [Toml.texts?]

theorem language_ofName?_iff {s : String} {l : Language} :
    Language.ofName? s = some l ↔ s = l.name := by
  constructor
  · intro h
    have hfound := List.find?_some h
    exact (beq_iff_eq.1 hfound).symm
  · rintro rfl
    exact Language.ofName?_name l

theorem dialect_ofName?_iff {s : String} {d : Dialect} :
    Dialect.ofName? s = some d ↔ s = d.name := by
  constructor
  · intro h
    have hfound := List.find?_some h
    exact (beq_iff_eq.1 hfound).symm
  · rintro rfl
    exact Dialect.ofName?_name d

theorem read?_eq_some_iff {α : Type} {read : Toml → Option α} (write : α → Option Toml)
    {name : String} {a d : α} (hwrite : write a = write d → a = d)
    (hread : ∀ v, fields.lookup name = some v → (read v = some a ↔ write a = some v)) :
    read? read fields name d = some a ↔ write a = (fields.lookup name).or (write d) := by
  unfold read?
  cases hv : fields.lookup name with
  | none =>
    rw [Option.none_or, Option.some.injEq]
    exact ⟨fun h => h ▸ rfl, fun h => (hwrite h).symm⟩
  | some v => exact hread v hv

theorem read?_text {name d a : String} : read? Toml.text? fields name d = some a ↔
    some (.string a) = (fields.lookup name).or (some (.string d)) := by
  refine read?_eq_some_iff (fun s => some (.string s)) ?_ ?_
  · simp
  · intro v _
    rw [text?_eq_some_iff, Option.some.injEq, eq_comm]

theorem read?_texts {name : String} {d a : List String} :
    read? Toml.texts? fields name d = some a ↔
      some (.array (a.map .string)) = (fields.lookup name).or (some (.array (d.map .string))) := by
  refine read?_eq_some_iff (fun ss : List String => some (.array (ss.map .string))) ?_ ?_
  · intro h
    have hmap := Toml.array.inj (Option.some.inj h)
    exact List.map_injective_iff.2 (fun s t => Toml.string.inj) hmap
  · intro v _
    rw [texts?_eq_some_iff, Option.some.injEq, eq_comm]

theorem read?_optional {name : String} {d a : Option String} :
    read? (fun v => v.text?.map some) fields name d = some a ↔
      a.map Toml.string = (fields.lookup name).or (d.map .string) := by
  refine read?_eq_some_iff (fun s : Option String => s.map .string) ?_ ?_
  · exact fun h => Option.map_injective (fun s t => Toml.string.inj) h
  · intro v _
    cases a with
    | none => simp
    | some s =>
      rw [Option.map_eq_some_iff, Option.map_some, Option.some.injEq, eq_comm,
        ← text?_eq_some_iff]
      simp

/-- A value of a few names, where it is a string. -/
theorem read?_name {α : Type} {ofName? : String → Option α} {nameOf : α → String}
    (hname : ∀ s a, ofName? s = some a ↔ s = nameOf a) {name : String} {d a : α}
    (hstring : ∀ v, fields.lookup name = some v → ∃ s, v = .string s) :
    read? (name? ofName?) fields name d = some a ↔
      some (.string (nameOf a)) = (fields.lookup name).or (some (.string (nameOf d))) := by
  refine read?_eq_some_iff (fun a => some (.string (nameOf a))) ?_ ?_
  · intro h
    have hsame : nameOf a = nameOf d := Toml.string.inj (Option.some.inj h)
    have hboth := ((hname _ a).2 rfl).symm.trans (hsame ▸ (hname _ d).2 rfl)
    exact Option.some.inj hboth
  · intro v hv
    obtain ⟨s, rfl⟩ := hstring v hv
    rw [name?, hname, Option.some.injEq, Toml.string.injEq, eq_comm]

theorem all_names_iff {names : List String} :
    (inner.all fun f => names.contains f.1) = true ↔
      ∀ key v, inner.lookup key = some v → key ∈ names := by
  rw [List.all_eq_true]
  constructor
  · intro h key v hv
    obtain ⟨front, behind, rfl, -⟩ := List.lookup_eq_some_iff.1 hv
    simpa using h (key, v) (by simp)
  · rintro h ⟨key, v⟩ hmem
    have hsome : (inner.lookup key).isSome := List.lookup_isSome_iff.2 ⟨(key, v), hmem, by simp⟩
    obtain ⟨w, hw⟩ := Option.isSome_iff_exists.1 hsome
    simpa using h key w hw

theorem section?_eq_some_iff {names : List String} {found : List (String × Toml)} :
    (section? names (.table inner) = some found) ↔
      (∀ key v, inner.lookup key = some v → key ∈ names) ∧ found = inner := by
  rw [section?, ← all_names_iff]
  split
  · next h => rw [Option.some.injEq, eq_comm, and_iff_right h]
  · next h => exact ⟨fun hnone => (Option.some_ne_none _ hnone.symm).elim, fun ha => absurd ha.1 h⟩

/-- A section agrees with some settings: its keys are known, and each setting of the section is the
value under its key, or the default. -/
structure Agrees (s : Settings) (sectionName : String) (inner : List (String × Toml)) : Prop where
  known : ∀ key v, inner.lookup key = some v → key ∈ (Key.ofSection sectionName).map Key.name
  value : ∀ k ∈ Key.ofSection sectionName,
    s.value? k = (inner.lookup k.name).or (({} : Settings).value? k)

theorem agrees_iff {s : Settings} {sectionName : String} : s.Agrees sectionName inner ↔
    (∀ key v, inner.lookup key = some v → key ∈ (Key.ofSection sectionName).map Key.name) ∧
    ∀ k ∈ Key.ofSection sectionName,
      s.value? k = (inner.lookup k.name).or (({} : Settings).value? k) :=
  ⟨fun h => ⟨h.known, h.value⟩, fun h => ⟨h.1, h.2⟩⟩

variable {s : Settings}

theorem language?_eq_some_iff
    (hstring : ∀ key v, key = "lang" ∨ key = "dialect" → inner.lookup key = some v →
      ∃ text, v = .string text) :
    language? (.table inner) = some s.language ↔ s.Agrees "language" inner := by
  have hkeys : Key.ofSection "language" = [.lang, .dialect, .std] := by decide
  have hlang := read?_name (fun _ _ => language_ofName?_iff) (a := s.language.lang)
    (d := defaultLang) fun v => hstring "lang" v (.inl rfl)
  have hdialect := read?_name (fun _ _ => dialect_ofName?_iff) (a := s.language.dialect)
    (d := defaultDialect) fun v => hstring "dialect" v (.inr rfl)
  rw [agrees_iff, hkeys, List.forall_mem_cons, List.forall_mem_cons, List.forall_mem_singleton,
    language?]
  simp only [Option.bind_eq_bind, section?_eq_some_iff, Option.bind_eq_some_iff]
  constructor
  · rintro ⟨_, ⟨hknown, rfl⟩, lang, h₁, dialect, h₂, std, h₃, h⟩
    obtain ⟨rfl, rfl, rfl⟩ :
        lang = s.language.lang ∧ dialect = s.language.dialect ∧ std = s.language.std := by
      rw [← Option.some.inj h]
      exact ⟨rfl, rfl, rfl⟩
    exact ⟨hknown, hlang.1 h₁, hdialect.1 h₂, read?_text.1 h₃⟩
  · rintro ⟨hknown, h₁, h₂, h₃⟩
    exact ⟨_, ⟨hknown, rfl⟩, _, hlang.2 h₁, _, hdialect.2 h₂, _, read?_text.2 h₃, rfl⟩

theorem compiler?_eq_some_iff : compiler? (.table inner) = some s.compiler ↔
    s.Agrees "compiler" inner := by
  have hkeys : Key.ofSection "compiler" = [.frontend] := by decide
  rw [agrees_iff, hkeys, List.forall_mem_singleton, compiler?]
  simp only [Option.bind_eq_bind, section?_eq_some_iff, Option.bind_eq_some_iff]
  constructor
  · rintro ⟨_, ⟨hknown, rfl⟩, frontend, h₁, h⟩
    obtain rfl : frontend = s.compiler.frontend := by rw [← Option.some.inj h]
    exact ⟨hknown, read?_text.1 h₁⟩
  · rintro ⟨hknown, h₁⟩
    exact ⟨_, ⟨hknown, rfl⟩, _, read?_text.2 h₁, rfl⟩

theorem flags?_eq_some_iff : flags? (.table inner) = some s.flags ↔ s.Agrees "flags" inner := by
  have hkeys : Key.ofSection "flags" = [.warnings] := by decide
  rw [agrees_iff, hkeys, List.forall_mem_singleton, flags?]
  simp only [Option.bind_eq_bind, section?_eq_some_iff, Option.bind_eq_some_iff]
  constructor
  · rintro ⟨_, ⟨hknown, rfl⟩, warnings, h₁, h⟩
    obtain rfl : warnings = s.flags.warnings := by rw [← Option.some.inj h]
    exact ⟨hknown, read?_texts.1 h₁⟩
  · rintro ⟨hknown, h₁⟩
    exact ⟨_, ⟨hknown, rfl⟩, _, read?_texts.2 h₁, rfl⟩

theorem includes?_eq_some_iff : includes? (.table inner) = some s.includes ↔
    s.Agrees "includes" inner := by
  have hkeys : Key.ofSection "includes" = [.locals, .external] := by decide
  rw [agrees_iff, hkeys, List.forall_mem_cons, List.forall_mem_singleton, includes?]
  simp only [Option.bind_eq_bind, section?_eq_some_iff, Option.bind_eq_some_iff]
  constructor
  · rintro ⟨_, ⟨hknown, rfl⟩, locals, h₁, external, h₂, h⟩
    obtain ⟨rfl, rfl⟩ : locals = s.includes.locals ∧ external = s.includes.external := by
      rw [← Option.some.inj h]
      exact ⟨rfl, rfl⟩
    exact ⟨hknown, read?_texts.1 h₁, read?_texts.1 h₂⟩
  · rintro ⟨hknown, h₁, h₂⟩
    exact ⟨_, ⟨hknown, rfl⟩, _, read?_texts.2 h₁, _, read?_texts.2 h₂, rfl⟩

theorem paths?_eq_some_iff : paths? (.table inner) = some s.paths ↔ s.Agrees "paths" inner := by
  have hkeys : Key.ofSection "paths" = [.buildInfoDir, .databaseDir] := by decide
  rw [agrees_iff, hkeys, List.forall_mem_cons, List.forall_mem_singleton, paths?]
  simp only [Option.bind_eq_bind, section?_eq_some_iff, Option.bind_eq_some_iff]
  constructor
  · rintro ⟨_, ⟨hknown, rfl⟩, buildInfoDir, h₁, databaseDir, h₂, h⟩
    obtain ⟨rfl, rfl⟩ : buildInfoDir = s.paths.buildInfoDir ∧
        databaseDir = s.paths.databaseDir := by
      rw [← Option.some.inj h]
      exact ⟨rfl, rfl⟩
    exact ⟨hknown, read?_text.1 h₁, read?_optional.1 h₂⟩
  · rintro ⟨hknown, h₁, h₂⟩
    exact ⟨_, ⟨hknown, rfl⟩, _, read?_text.2 h₁, _, read?_optional.2 h₂, rfl⟩

def sectionNames : List String :=
  ["language", "compiler", "flags", "includes", "paths"]

theorem mem_sectionNames_iff {name : String} :
    name ∈ sectionNames ↔ ∃ k : Key, k.sectionName = name := by
  constructor
  · intro h
    simp only [sectionNames, List.mem_cons, List.not_mem_nil, or_false] at h
    rcases h with rfl | rfl | rfl | rfl | rfl
    exacts [⟨.lang, rfl⟩, ⟨.frontend, rfl⟩, ⟨.warnings, rfl⟩, ⟨.locals, rfl⟩, ⟨.buildInfoDir, rfl⟩]
  · rintro ⟨k, rfl⟩
    cases k <;> decide

/-- The known sections of the document are tables, and what names a language or a dialect is a
string. -/
structure Plain (fields : List (String × Toml)) : Prop where
  table : ∀ name ∈ sectionNames, ∀ v, fields.lookup name = some v → ∃ inner, v = .table inner
  string : ∀ k ∈ [Key.lang, .dialect], ∀ v, k.find? fields = some v → ∃ text, v = .string text

theorem read?_section {α : Type} {read : Toml → Option α} {d a : α} {name : String}
    (hempty : read (.table []) = some d) (hname : name ∈ sectionNames) (h : Plain fields) :
    read? read fields name d = some a ↔ read (.table (inside fields name)) = some a := by
  unfold read? inside
  cases hv : fields.lookup name with
  | none => rw [hempty]
  | some v =>
    obtain ⟨inner, rfl⟩ := h.table name hname v hv
    rfl

theorem ofToml?_eq_some_iff (h : Plain fields) : ofToml? (.table fields) = some s ↔
    (∀ name v, fields.lookup name = some v → name ∈ sectionNames) ∧
    ∀ name ∈ sectionNames, s.Agrees name (inside fields name) := by
  have hstring : ∀ key v, key = "lang" ∨ key = "dialect" →
      (inside fields "language").lookup key = some v → ∃ text, v = .string text := by
    rintro key v (rfl | rfl) hv
    exacts [h.string .lang (by simp) v hv, h.string .dialect (by simp) v hv]
  have hsections : (∀ name ∈ sectionNames, s.Agrees name (inside fields name)) ↔
      language? (.table (inside fields "language")) = some s.language ∧
      compiler? (.table (inside fields "compiler")) = some s.compiler ∧
      flags? (.table (inside fields "flags")) = some s.flags ∧
      includes? (.table (inside fields "includes")) = some s.includes ∧
      paths? (.table (inside fields "paths")) = some s.paths := by
    rw [language?_eq_some_iff hstring, compiler?_eq_some_iff, flags?_eq_some_iff,
      includes?_eq_some_iff, paths?_eq_some_iff]
    simp [sectionNames]
  obtain ⟨hlanguage, hcompiler, hflags, hincludes, hpaths⟩ := empty_sections
  rw [hsections, ← read?_section hlanguage (by decide) h, ← read?_section hcompiler (by decide) h,
    ← read?_section hflags (by decide) h, ← read?_section hincludes (by decide) h,
    ← read?_section hpaths (by decide) h, ofToml?]
  simp only [Option.bind_eq_bind, section?_eq_some_iff, Option.bind_eq_some_iff]
  constructor
  · rintro ⟨_, ⟨hknown, rfl⟩, language, h₁, compiler, h₂, flags, h₃, includes, h₄, paths, h₅, hs⟩
    obtain rfl := Option.some.inj hs
    exact ⟨hknown, h₁, h₂, h₃, h₄, h₅⟩
  · rintro ⟨hknown, h₁, h₂, h₃, h₄, h₅⟩
    exact ⟨_, ⟨hknown, rfl⟩, _, h₁, _, h₂, _, h₃, _, h₄, _, h₅, rfl⟩

theorem agrees_sections_iff : (∀ name ∈ sectionNames, s.Agrees name (inside fields name)) ↔
    (∀ name ∈ sectionNames, ∀ key v, (inside fields name).lookup key = some v →
      key ∈ (Key.ofSection name).map Key.name) ∧
    ∀ k : Key, s.value? k = (k.find? fields).or (({} : Settings).value? k) := by
  constructor
  · intro h
    refine ⟨fun name hname => (h name hname).known, fun k => ?_⟩
    exact (h k.sectionName (mem_sectionNames_iff.2 ⟨k, rfl⟩)).value k (Key.mem_ofSection.2 rfl)
  · rintro ⟨hknown, hvalue⟩ name hname
    refine ⟨hknown name hname, fun k hk => ?_⟩
    obtain rfl := Key.mem_ofSection.1 hk
    exact hvalue k

theorem lookup_of_inside {name key : String} {v : Toml}
    (h : (inside fields name).lookup key = some v) :
    fields.lookup name = some (.table (inside fields name)) := by
  unfold inside at h ⊢
  split at h
  · next heq => rw [heq]
  · cases h

theorem accepted_iff : Accepted fields ↔
    (∀ name v, fields.lookup name = some v → name ∈ sectionNames) ∧
    (∀ name ∈ sectionNames, ∀ key v, (inside fields name).lookup key = some v →
      key ∈ (Key.ofSection name).map Key.name) ∧
    ∀ k v, Key.find? k fields = some v → k.Admits v := by
  constructor
  · intro h
    refine ⟨?_, ?_, ?_⟩
    · intro name v hv
      exact mem_sectionNames_iff.2 (h.sections name v hv)
    · intro name _ key v hv
      obtain ⟨k, hsection, hname, -⟩ := h.keys name _ (lookup_of_inside hv) key v hv
      exact List.mem_map.2 ⟨k, Key.mem_ofSection.2 hsection, hname⟩
    · intro k v hv
      obtain ⟨l, hsection, hname, hadmits⟩ := h.keys _ _ (lookup_of_inside hv) k.name v hv
      rwa [Key.eq_of_names hsection hname] at hadmits
  · rintro ⟨hsections, hknown, hadmits⟩
    refine ⟨fun name v hv => mem_sectionNames_iff.1 (hsections name v hv), ?_⟩
    intro name inner hinner key v hv
    have hinside : inside fields name = inner := by rw [inside, hinner]
    rw [← hinside] at hv
    have hmem := hknown name (hsections name _ hinner) key v hv
    obtain ⟨k, hk, rfl⟩ := List.mem_map.1 hmem
    obtain rfl := Key.mem_ofSection.1 hk
    exact ⟨k, rfl, rfl, hadmits k v hv⟩

theorem admits_of_value? {k : Key} {v : Toml} (h : s.value? k = some v) : k.Admits v := by
  cases k with
  | lang =>
    obtain rfl := Option.some.inj h
    cases hlang : s.language.lang <;> simp [Key.Admits, Language.name]
  | dialect =>
    obtain rfl := Option.some.inj h
    cases hdialect : s.language.dialect <;> simp [Key.Admits, Dialect.name]
  | std | frontend | buildInfoDir => exact ⟨_, (Option.some.inj h).symm⟩
  | warnings | locals | external => exact ⟨_, (Option.some.inj h).symm⟩
  | databaseDir =>
    obtain ⟨dir, -, rfl⟩ := Option.map_eq_some_iff.1 h
    exact ⟨dir, rfl⟩

theorem exists_written {α : Type} (write : α → Option Toml) {v : Option Toml} (d : α)
    (h : ∀ w, v = some w → ∃ a, write a = some w) : ∃ a, write a = v.or (write d) := by
  cases v with
  | none => exact ⟨d, rfl⟩
  | some w => exact h w rfl

theorem exists_value? (h : ∀ k v, Key.find? k fields = some v → k.Admits v) :
    ∃ s : Settings, ∀ k : Key, s.value? k = (k.find? fields).or (({} : Settings).value? k) := by
  have htext : ∀ (k : Key) (d : String), (∀ v, k.Admits v → ∃ text, v = .string text) →
      ∃ text, some (Toml.string text) = (k.find? fields).or (some (.string d)) := by
    intro k d hk
    refine exists_written (fun text => some (.string text)) d fun v hv => ?_
    obtain ⟨text, rfl⟩ := hk v (h k v hv)
    exact ⟨text, rfl⟩
  have htexts : ∀ (k : Key) (d : List String),
      (∀ v, k.Admits v → ∃ texts : List String, v = .array (texts.map .string)) →
      ∃ texts : List String, some (Toml.array (texts.map .string)) =
        (k.find? fields).or (some (.array (d.map .string))) := by
    intro k d hk
    refine exists_written
      (fun texts : List String => some (.array (texts.map .string))) d fun v hv => ?_
    obtain ⟨texts, rfl⟩ := hk v (h k v hv)
    exact ⟨texts, rfl⟩
  obtain ⟨lang, hlang⟩ := exists_written (fun l : Language => some (.string l.name))
    defaultLang (v := Key.find? .lang fields) fun v hv => by
      rcases h .lang v hv with rfl | rfl
      exacts [⟨.c, rfl⟩, ⟨.cpp, rfl⟩]
  obtain ⟨dialect, hdialect⟩ := exists_written
    (fun d : Dialect => some (.string d.name)) defaultDialect
    (v := Key.find? .dialect fields) fun v hv => by
      rcases h .dialect v hv with rfl | rfl
      exacts [⟨.iso, rfl⟩, ⟨.gnu, rfl⟩]
  obtain ⟨databaseDir, hdatabaseDir⟩ := exists_written
    (fun dir : Option String => dir.map .string) none
    (v := Key.find? .databaseDir fields) fun v hv => by
      obtain ⟨dir, rfl⟩ := h .databaseDir v hv
      exact ⟨some dir, rfl⟩
  obtain ⟨std, hstd⟩ := htext .std defaultStd fun _ hv => hv
  obtain ⟨frontend, hfrontend⟩ := htext .frontend defaultFrontend fun _ hv => hv
  obtain ⟨buildInfoDir, hbuildInfoDir⟩ := htext .buildInfoDir defaultBuildInfoDir fun _ hv => hv
  obtain ⟨warnings, hwarnings⟩ := htexts .warnings defaultWarnings fun _ hv => hv
  obtain ⟨locals, hlocals⟩ := htexts .locals defaultLocals fun _ hv => hv
  obtain ⟨external, hexternal⟩ := htexts .external [] fun _ hv => hv
  refine ⟨⟨⟨lang, dialect, std⟩, ⟨frontend⟩, ⟨warnings⟩, ⟨locals, external⟩,
    ⟨buildInfoDir, databaseDir⟩⟩, ?_⟩
  intro k
  cases k with
  | lang => exact hlang
  | dialect => exact hdialect
  | std => exact hstd
  | frontend => exact hfrontend
  | warnings => exact hwarnings
  | locals => exact hlocals
  | external => exact hexternal
  | buildInfoDir => exact hbuildInfoDir
  | databaseDir => exact hdatabaseDir

/-- A document makes settings exactly when it is accepted. They are the ones that have its value
under each key it has, and under every other key the value that the empty document gives. -/
theorem ofToml?_accepted (h : Plain fields) :
    ((∃ s, ofToml? (.table fields) = some s) ↔ Accepted fields) ∧
    ∃ d, ofToml? (.table []) = some d ∧ ∀ s, ofToml? (.table fields) = some s ↔
      Accepted fields ∧ ∀ k : Key, s.value? k = (k.find? fields).or (d.value? k) := by
  have hiff : ∀ s, ofToml? (.table fields) = some s ↔
      Accepted fields ∧ ∀ k : Key, s.value? k = (k.find? fields).or (({} : Settings).value? k) := by
    intro s
    rw [ofToml?_eq_some_iff h, agrees_sections_iff, accepted_iff]
    constructor
    · rintro ⟨hsections, hknown, hvalue⟩
      refine ⟨⟨hsections, hknown, fun k v hv => admits_of_value? (s := s) ?_⟩, hvalue⟩
      rw [hvalue k, hv, Option.some_or]
    · rintro ⟨⟨hsections, hknown, -⟩, hvalue⟩
      exact ⟨hsections, hknown, hvalue⟩
  refine ⟨⟨?_, ?_⟩, {}, ofToml?_empty, hiff⟩
  · rintro ⟨s, hs⟩
    exact ((hiff s).1 hs).1
  · intro haccepted
    obtain ⟨s, hs⟩ := exists_value? (accepted_iff.1 haccepted).2.2
    exact ⟨s, (hiff s).2 ⟨haccepted, hs⟩⟩

def partialDocument : List (String × Toml) :=
  [("language", .table [("std", .string "17")]), ("paths", .table [("compdb_dir", .string "out")])]

theorem ofToml?_accepted_partial : Plain partialDocument ∧ Accepted partialDocument ∧
    ∃ s, ofToml? (.table partialDocument) = some s ∧
      s.value? .std = some (.string "17") ∧ s.value? .databaseDir = some (.string "out") ∧
      ∀ k, k ≠ .std → k ≠ .databaseDir → s.value? k = ({} : Settings).value? k := by
  have htables : ∀ f ∈ partialDocument, ∃ inner, f.2 = .table inner := by
    simp [partialDocument]
  have hplain : Plain partialDocument := by
    constructor
    · intro name _ v hv
      obtain ⟨front, behind, heq, -⟩ := List.lookup_eq_some_iff.1 hv
      exact htables (name, v) (heq ▸ by simp)
    · intro k hk v hv
      simp only [List.mem_cons, List.not_mem_nil, or_false] at hk
      rcases hk with rfl | rfl <;> cases hv
  obtain ⟨hiff, d, hd, hsome⟩ := ofToml?_accepted hplain
  obtain rfl : {} = d := Option.some.inj (ofToml?_empty.symm.trans hd)
  have hs : ofToml? (.table partialDocument) = some
      { language := { std := "17" }, paths := { databaseDir := some "out" } } := by rfl
  obtain ⟨haccepted, hvalue⟩ := (hsome _).1 hs
  refine ⟨hplain, haccepted, _, hs, rfl, rfl, fun k hstd hdir => ?_⟩
  have hnone : k.find? partialDocument = none := by
    cases k <;> first | rfl | contradiction
  rw [hvalue k, hnone, Option.none_or]

end CompileFlags.Settings
