import CompileFlags.Proofs.Config.Directories
import CompileFlags.Proofs.Text.Occurrence
import CompileFlags.Resolution

set_option autoImplicit false

namespace CompileFlags

namespace Text

def IsWord (s : String) : Prop :=
  s ≠ "" ∧ ∀ c ∈ s.toList, isBlank c = false

def IsBlank (s : String) : Prop :=
  ∀ c ∈ s.toList, isBlank c = true

theorem trim_eq_empty_iff {s : String} : trim s = "" ↔ IsBlank s := by
  have hempty : trim s = "" ↔ trimChars s.toList = [] := by
    rw [trim, ← String.toList_inj, String.toList_ofList]
    rfl
  rw [hempty]
  constructor
  · intro hnil c hc
    -- A character that is no blank would survive trimming.
    cases hblank : isBlank c with
    | true => rfl
    | false =>
      have hkept : [c] <:+: trimChars s.toList :=
        infix_trimChars (by simpa using hblank) (by simpa using hblank)
          ((List.singleton_infix_iff c s.toList).2 hc)
      rw [hnil, List.infix_nil] at hkept
      exact absurd hkept (List.cons_ne_nil c [])
  · exact trimChars_of_isBlank

end Text

theorem standardName_isWord {version : String} (h : Text.IsWord version) (language : Language)
    (dialect : Dialect) : Text.IsWord (standardName language dialect version) := by
  have happend : ∀ front : String, (front.toList.all fun c => !Text.isBlank c) = true →
      Text.IsWord (front ++ version) := by
    intro front hfront
    refine ⟨fun hnil => h.1 (String.append_eq_empty_iff.1 hnil).2, fun c hc => ?_⟩
    rw [String.toList_append, List.mem_append] at hc
    exact hc.elim (fun hc => by simpa using List.all_eq_true.1 hfront c hc) (h.2 c)
  cases dialect <;> cases language <;> exact happend _ (by decide)

namespace Project

theorem isVersion_iff {s : String} : isVersion s = true ↔ Text.IsWord s := by
  simp [isVersion, Text.IsWord]

/-- What is asked of settings. -/
structure IsValid (s : Settings) : Prop where
  version : Text.IsWord (Text.trim s.language.std)
  frontend : ¬ Text.IsBlank s.compiler.frontend

variable {base root : Path} {s : Settings} {p : Project}

theorem ofSettings_of_badVersion (h : ¬ Text.IsWord (Text.trim s.language.std)) (base root : Path) :
    ofSettings base s root = .error (.badVersion s.language.lang s.language.std) := by
  rw [ofSettings, if_pos (by simpa [← isVersion_iff] using h)]

theorem ofSettings_of_blankFrontend (hversion : Text.IsWord (Text.trim s.language.std))
    (hfrontend : Text.IsBlank s.compiler.frontend) (base root : Path) :
    ofSettings base s root = .error .blankFrontend := by
  rw [ofSettings, if_neg (by simp [isVersion_iff.2 hversion]),
    if_pos (Text.trim_eq_empty_iff.2 hfrontend)]

theorem exists_ofSettings_iff : (∃ p, ofSettings base s root = .ok p) ↔ IsValid s := by
  constructor
  · rintro ⟨p, hp⟩
    have hversion : Text.IsWord (Text.trim s.language.std) := by
      by_contra hbad
      rw [ofSettings_of_badVersion hbad] at hp
      cases hp
    refine ⟨hversion, fun hblank => ?_⟩
    rw [ofSettings_of_blankFrontend hversion hblank] at hp
    cases hp
  · intro h
    exact exists_ofSettings (isVersion_iff.2 h.version)
      (fun hblank => h.frontend (Text.trim_eq_empty_iff.1 hblank)) base root

theorem fault_of_ofSettings {fault : ConfigFault} (h : ofSettings base s root = .error fault) :
    (¬ Text.IsWord (Text.trim s.language.std) ∧
      fault = .badVersion s.language.lang s.language.std) ∨
    (Text.IsWord (Text.trim s.language.std) ∧ Text.IsBlank s.compiler.frontend ∧
      fault = .blankFrontend) := by
  by_cases hversion : Text.IsWord (Text.trim s.language.std)
  · by_cases hblank : Text.IsBlank s.compiler.frontend
    · rw [ofSettings_of_blankFrontend hversion hblank] at h
      exact .inr ⟨hversion, hblank, (Except.error.inj h).symm⟩
    · obtain ⟨p, hp⟩ : ∃ p, ofSettings base s root = .ok p :=
        exists_ofSettings_iff.2 ⟨hversion, hblank⟩
      rw [hp] at h
      cases h
  · rw [ofSettings_of_badVersion hversion] at h
    exact .inl ⟨hversion, (Except.error.inj h).symm⟩

theorem compiler_of_ofSettings (h : ofSettings base s root = .ok p) :
    p.language = s.language.lang ∧ p.frontend = s.compiler.frontend ∧
    p.standard = standardName s.language.lang s.language.dialect (Text.trim s.language.std) := by
  unfold ofSettings at h
  dsimp only at h
  split at h
  · cases h
  · split at h
    · cases h
    · cases h
      exact ⟨rfl, rfl, rfl⟩

theorem tokens_languageFlags (h : p.standard ≠ "") :
    p.languageFlags.tokens = ["-x", p.language.name, "-std=" ++ p.standard] := by
  have hname : p.language.name ≠ "" := by cases p.language <;> decide
  have hlanguage : (Flag.mk "-x" p.language.name).tokens = ["-x", p.language.name] := by
    have hswitch : "-x".toList.getLast? ≠ some '=' := by decide
    rw [Flag.tokens, if_neg hname, if_neg hswitch]
  have hstandard : (Flag.mk "-std=" p.standard).tokens = ["-std=" ++ p.standard] := by
    have hswitch : "-std=".toList.getLast? = some '=' := by decide
    rw [Flag.tokens, if_neg h, if_pos hswitch]
  rw [languageFlags, FlagList.tokens, List.flatMap_cons, List.flatMap_cons, List.flatMap_nil,
    hlanguage, hstandard]
  rfl

/-- Settings make a project exactly when the trimmed version is a word and the frontend is not
blank. Its directories are canonical, its standard is a word, and the compiler is asked about the
language in the tokens that the analysis tool is told. Other settings are refused by a fault of the
configuration. -/
theorem ofSettings_consistent {base : Path} (hbase : base.isAbsolute = true) (s : Settings)
    (root : Path) :
    ((∃ p, ofSettings base s root = .ok p) ↔
      Text.IsWord (Text.trim s.language.std) ∧ ¬ Text.IsBlank s.compiler.frontend) ∧
    (∀ p, ofSettings base s root = .ok p →
      (∀ dir ∈ [p.root, p.buildInfoDir, p.databaseDir],
        dir.isAbsolute = true ∧ dir.IsCanonical) ∧
      (s.paths.databaseDir = none → p.databaseDir = p.buildInfoDir) ∧
      p.standard = standardName s.language.lang s.language.dialect (Text.trim s.language.std) ∧
      (∀ c ∈ p.standard.toList, Text.isBlank c = false) ∧
      p.languageFlags.tokens = ["-x", s.language.lang.name, "-std=" ++ p.standard] ∧
      p.probe.args = ["-v", "-E"] ++ p.languageFlags.tokens ++ ["-"]) ∧
    (∀ fault, ofSettings base s root = .error fault →
      ((¬ Text.IsWord (Text.trim s.language.std) ∧
          fault = .badVersion s.language.lang s.language.std) ∨
        (Text.IsWord (Text.trim s.language.std) ∧ Text.IsBlank s.compiler.frontend ∧
          fault = .blankFrontend)) ∧
      (FlagFault.configuration fault).isFatal = false) := by
  refine ⟨?_, ?_, ?_⟩
  · rw [exists_ofSettings_iff]
    exact ⟨fun h => ⟨h.version, h.frontend⟩, fun h => ⟨h.1, h.2⟩⟩
  · intro p hp
    obtain ⟨-, -, hdatabase, -⟩ := fields_of_ofSettings hp
    obtain ⟨hlanguage, -, hstandard⟩ := compiler_of_ofSettings hp
    have hplaced := ofSettings_isPlaced hbase hp
    have hvalid : IsValid s := exists_ofSettings_iff.1 ⟨p, hp⟩
    have hword : Text.IsWord p.standard := hstandard ▸ standardName_isWord hvalid.version _ _
    have htokens := tokens_languageFlags hword.1
    refine ⟨?_, ?_, hstandard, hword.2, hlanguage ▸ htokens, ?_⟩
    · have hcanonical : ∀ dir ∈ [p.root, p.buildInfoDir, p.databaseDir], dir.IsCanonical := by
        simp [hplaced.root, hplaced.buildInfoDir, hplaced.databaseDir]
      exact fun dir hdir => ⟨(hcanonical dir hdir).isAbsolute, hcanonical dir hdir⟩
    · intro hnone
      rw [hdatabase, hnone]
      rfl
    · rw [htokens]
      rfl
  · intro fault hfault
    exact ⟨fault_of_ofSettings hfault, FlagFault.not_isFatal_configuration fault⟩

def paddedSettings : Settings where
  language := { lang := .c, dialect := .iso, std := "\u30002y\t" }
  paths := { databaseDir := some "../out" }

theorem ofSettings_consistent_padded :
    (Path.mk "/home/me").isAbsolute = true ∧
    ∃ p, ofSettings ⟨"/home/me"⟩ paddedSettings ⟨"work/./avr"⟩ = .ok p ∧
      (∀ dir ∈ [p.root, p.buildInfoDir, p.databaseDir],
        dir.isAbsolute = true ∧ dir.IsCanonical) ∧
      p.standard = "c2y" ∧
      p.probe.args = ["-v", "-E"] ++ p.languageFlags.tokens ++ ["-"] := by
  have hbase : (Path.mk "/home/me").isAbsolute = true := by decide +kernel
  have hversion : Text.IsWord (Text.trim "\u30002y\t") := isVersion_iff.1 (by decide +kernel)
  have hfrontend : ¬ Text.IsBlank "avr-gcc" := fun h => absurd (h 'a' (by decide)) (by decide)
  obtain ⟨hiff, hproject, -⟩ := ofSettings_consistent hbase paddedSettings ⟨"work/./avr"⟩
  obtain ⟨p, hp⟩ := hiff.2 ⟨hversion, hfrontend⟩
  obtain ⟨hdirs, -, hstandard, -, -, hargs⟩ := hproject p hp
  exact ⟨hbase, p, hp, hdirs, hstandard.trans (by decide +kernel), hargs⟩

end Project

end CompileFlags
