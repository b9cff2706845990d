import CompileFlags.Config.Load
import CompileFlags.Proofs.Config.Directories
import CompileFlags.Proofs.Disk.Places
import CompileFlags.Proofs.Disk.WorkingFolder

set_option autoImplicit false

namespace CompileFlags.Config

open Disk

variable {w v : World} {path : Path}

theorem load_of_readText {content : String} {settings : Settings} {folder : Place}
    (hfolder : ∀ n ∈ folder, Path.IsName n) (hread : w.readText path = .ok content)
    (hsettings : (Toml.parse? content).bind Settings.ofToml? = some settings)
    (hpath : w.absolute path = pathOf (folder ++ [fileName])) {project : Project}
    (hproject : Project.ofSettings (pathOf folder) settings (pathOf folder) = .ok project) :
    load w path = .ok project := by
  have hparent : (pathOf (folder ++ [fileName])).parent? = some (pathOf folder) :=
    Path.parent?_concat hfolder (by decide)
  have hsame := Project.ofSettings_eq (isAbsolute_pathOf folder) w.base (pathOf folder) settings
  simp only [load, hread, hsettings, hpath, hparent, Option.getD_some, hsame, hproject]

theorem isPlaced_of_load {project : Project} (h : load w path = .ok project) :
    project.IsPlaced := by
  unfold load at h
  split at h
  · cases h
  · split at h
    · cases h
    · dsimp only at h
      split at h
      · cases h
      · next hproject =>
        cases h
        exact Project.ofSettings_isPlaced w.isAbsolute_base hproject

theorem load_eq (h : w.tree = v.tree) (hpath : path.isAbsolute = true) :
    load w path = load v path := by
  have hroot : ((w.absolute path).parent?.getD ⟨"/"⟩).isAbsolute = true := by
    cases hparent : (w.absolute path).parent? with
    | none => decide
    | some parent =>
      exact (Path.isCanonical_of_parent? (w.absolute_isCanonical path) hparent).isAbsolute
  simp only [load, World.readText_eq h hpath, ← World.absolute_eq w v hpath,
    Project.ofSettings_eq hroot w.base v.base]

end CompileFlags.Config
