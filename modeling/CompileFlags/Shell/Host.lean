import CompileFlags.Shell.Tool

set_option autoImplicit false

namespace CompileFlags.Shell.Host

open Disk

def emptyFolder (name : String) : String × Node :=
  (name, .folder [] .all)

def devices : Node :=
  .folder (["null", "stderr", "stdin", "stdout"].map fun name => (name, .file [] .data)) .all

def accounts : Node :=
  .folder [("passwd", .file [] .data)] .all

def shared : Node :=
  let inside := ["bin", "etc", "include", "lib", "sbin", "share", "src"].map emptyFolder
  let beside := ["games", "include", "lib", "lib64", "sbin", "share", "src"].map emptyFolder
  .folder (("bin", .folder Tool.files .all) :: ("local", .folder inside .all) :: beside) .all

def changing : Node :=
  .folder (["cache", "lib", "log", "tmp"].map emptyFolder) .all

def tree : Node :=
  let links := ["bin", "lib", "lib64", "sbin"].map fun name => (name, Node.link ⟨"usr/" ++ name⟩)
  let filled := [("dev", devices), ("etc", accounts), ("usr", shared), ("var", changing)]
  let others := ["boot", "home", "media", "mnt", "opt", "proc", "root", "run", "srv", "sys", "tmp"]
  .folder (links ++ filled ++ others.map emptyFolder) .all

def programDirs : List Path :=
  [⟨"/usr/bin"⟩, ⟨"/bin"⟩]

end CompileFlags.Shell.Host
