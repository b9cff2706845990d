import CompileFlags.Path.Normal
import CompileFlags.Text.Blank
import CompileFlags.Text.Find

set_option autoImplicit false

namespace CompileFlags.SearchList

def startMark : String := "#include <...> search starts here:"

def endMark : String := "End of search list"

def frameworkMark : String := "(framework directory)"

def body? (output : List Char) : Option (List Char) := do
  let (_, rest) ← Text.cut? startMark.toList output
  let (body, _) ← Text.cut? endMark.toList rest
  return body

/-- The entries of a list: the trimmed lines that name a directory to search. -/
def entries (body : List Char) : List (List Char) :=
  ((Text.lines body).map Text.trimChars).filter fun line =>
    !line.isEmpty && !Text.contains frameworkMark.toList line

def parse? (output : String) (cwd : Path) : Option (List Path) :=
  (body? output.toList).map fun body =>
    (entries body).map fun line => cwd.absolutize ⟨String.ofList line⟩

end CompileFlags.SearchList
