set_option autoImplicit false

namespace CompileFlags

inductive Toml where
  | string (s : String)
  | integer
  | float
  | boolean (b : Bool)
  | date
  | array (items : List Toml)
  | table (fields : List (String × Toml))
deriving Inhabited

namespace Toml

def text? : Toml → Option String
  | .string s => some s
  | _ => none

def texts? : Toml → Option (List String)
  | .array items => items.mapM text?
  | _ => none

end Toml

end CompileFlags
