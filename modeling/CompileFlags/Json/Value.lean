set_option autoImplicit false

namespace CompileFlags

inductive Json where
  | null
  | bool (b : Bool)
  | number
  | string (content : Option String)
  | array (items : List Json)
  | object (fields : List (Option String × Json))
deriving Inhabited

namespace Json

def text? : Json → Option String
  | .string content => content
  | _ => none

def texts? : Json → Option (List String)
  | .array items => items.mapM text?
  | _ => none

def nullable? {α : Type} (read : Json → Option α) : Json → Option (Option α)
  | .null => some none
  | v => (read v).map some

end Json

end CompileFlags
