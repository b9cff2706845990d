import CompileFlags.Toml.Reader

set_option autoImplicit false

namespace CompileFlags.Toml

def apply (s : Fields × List String) : Statement → Option (Fields × List String)
  | .assignment key v => (within (assign v key) s.2 s.1).map fun fields => (fields, s.2)
  | .header key => do
    let fields ← within (define (← key.getLast?)) key.dropLast s.1
    return (fields, key)
  | .element key => do
    let fields ← within (addElement (← key.getLast?)) key.dropLast s.1
    return (fields, key)

def ofStatements? (statements : List Statement) : Option Toml := do
  let (fields, _) ← statements.foldlM apply ([], [])
  return .table (fieldsToToml fields)

def parse? (s : String) : Option Toml := do
  ofStatements? (← statements? s.toList)

end CompileFlags.Toml
