import CompileFlags.Disk.World

set_option autoImplicit false

namespace CompileFlags.Disk.World

variable {w v : World} {p : Path}

theorem place_eq (h : w.tree = v.tree) (hp : p.isAbsolute = true) (ending : Ending) :
    w.place ending p = v.place ending p := by
  simp only [place, hp, h, if_true]

theorem node_eq (h : w.tree = v.tree) (hp : p.isAbsolute = true) (ending : Ending) :
    w.node ending p = v.node ending p := by
  simp only [node, place_eq h hp, h]

theorem isFile_eq (h : w.tree = v.tree) (hp : p.isAbsolute = true) : w.isFile p = v.isFile p := by
  simp only [isFile, node_eq h hp]

theorem lists_eq (h : w.tree = v.tree) (hp : p.isAbsolute = true) : w.lists p = v.lists p := by
  simp only [lists, node_eq h hp]

theorem readBytes_eq (h : w.tree = v.tree) (hp : p.isAbsolute = true) :
    w.readBytes p = v.readBytes p := by
  simp only [readBytes, node_eq h hp]

theorem readText_eq (h : w.tree = v.tree) (hp : p.isAbsolute = true) :
    w.readText p = v.readText p := by
  simp only [readText, readBytes_eq h hp]

theorem absolute_eq (w v : World) (hp : p.isAbsolute = true) : w.absolute p = v.absolute p := by
  rw [absolute_of_isAbsolute hp, absolute_of_isAbsolute hp]

end CompileFlags.Disk.World
