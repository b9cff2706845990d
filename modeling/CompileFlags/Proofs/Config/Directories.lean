import CompileFlags.Config.Project
import CompileFlags.Proofs.Path.Parents

set_option autoImplicit false

namespace CompileFlags.Project

theorem exists_ofSettings {s : Settings} (hversion : isVersion (Text.trim s.language.std) = true)
    (hfrontend : Text.trim s.compiler.frontend ≠ "") (base root : Path) :
    ∃ p, ofSettings base s root = .ok p := by
  rw [ofSettings, if_neg (by simp [hversion]), if_neg hfrontend]
  exact ⟨_, rfl⟩

theorem fields_of_ofSettings {base root : Path} {s : Settings} {p : Project}
    (h : ofSettings base s root = .ok p) :
    p.root = base.absolutize root ∧ p.buildInfoDir = p.root.absolutize ⟨s.paths.buildInfoDir⟩ ∧
    p.databaseDir = (s.paths.databaseDir.map fun dir => p.root.absolutize ⟨dir⟩).getD
      p.buildInfoDir ∧ p.externalIncludes = s.includes.external := by
  unfold ofSettings at h
  dsimp only at h
  split at h
  · cases h
  · split at h
    · cases h
    · cases h
      refine ⟨rfl, rfl, ?_, rfl⟩
      cases s.paths.databaseDir <;> rfl

/-- The directories of a project lead somewhere by themselves. -/
structure IsPlaced (p : Project) : Prop where
  root : p.root.IsCanonical
  buildInfoDir : p.buildInfoDir.IsCanonical
  databaseDir : p.databaseDir.IsCanonical

theorem ofSettings_isPlaced {base root : Path} (h : base.isAbsolute = true) {s : Settings}
    {p : Project} (hp : ofSettings base s root = .ok p) : p.IsPlaced := by
  obtain ⟨hroot, hbuildInfo, hdatabase, -⟩ := fields_of_ofSettings hp
  have hcanonical : p.root.IsCanonical := hroot ▸ Path.absolutize_isCanonical h root
  have hdir := Path.absolutize_isCanonical hcanonical.isAbsolute
  refine ⟨hcanonical, hbuildInfo ▸ hdir _, ?_⟩
  rw [hdatabase]
  cases s.paths.databaseDir with
  | none => exact hbuildInfo ▸ hdir _
  | some dir => exact hdir ⟨dir⟩

theorem ofSettings_eq {root : Path} (h : root.isAbsolute = true) (base other : Path)
    (s : Settings) : ofSettings base s root = ofSettings other s root := by
  simp only [ofSettings, Path.absolutize_of_isAbsolute h]

theorem IsPlaced.isAbsolute_buildInfoPath {p : Project} (h : p.IsPlaced) :
    p.buildInfoPath.isAbsolute = true :=
  Path.isAbsolute_child h.buildInfoDir.isAbsolute _

theorem IsPlaced.parent?_buildInfoPath {p : Project} (h : p.IsPlaced) :
    p.buildInfoPath.parent? = some p.buildInfoDir := by
  obtain ⟨names, hnames, hdir⟩ := h.buildInfoDir
  rw [buildInfoPath, hdir, Path.child_ofNames hnames]
  exact Path.parent?_concat hnames (by decide)

end CompileFlags.Project
