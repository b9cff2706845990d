import CompileFlags.Path.Basic

set_option autoImplicit false

namespace CompileFlags.Database

def headerExtensions : List String := ["h", "hpp", "hxx", "hh"]

def sourceExtensions : List String := ["cpp", "cc", "cxx", "c++", "c"]

def isHeader (p : Path) : Bool :=
  match p.extension? with
  | some ext => headerExtensions.contains ext
  | none => false

theorem headerExtensions_disjoint_sourceExtensions :
    ∀ ext ∈ headerExtensions, ext ∉ sourceExtensions := by
  decide

end CompileFlags.Database
