import CompileFlags.Toml.Value

set_option autoImplicit false

namespace CompileFlags.Toml

inductive Item where
  | value (v : Toml)
  | table (defined dotted : Bool) (fields : List (String × Item))
  | tables (elements : List (List (String × Item)))
deriving Inhabited

abbrev Fields := List (String × Item)

def setField (name : String) (i : Item) (fields : Fields) : Fields :=
  if (fields.lookup name).isSome then
    fields.map fun f => if f.1 = name then (name, i) else f
  else fields ++ [(name, i)]

/-- The fields with a value under a key. Every part of the key before the last one names a table
that only such keys have made. -/
def assign (v : Toml) : List String → Fields → Option Fields
  | [], _ => none
  | [name], fields =>
    match fields.lookup name with
    | none => some (setField name (.value v) fields)
    | some _ => none
  | name :: rest, fields =>
    match fields.lookup name with
    | none => (assign v rest []).map fun sub => setField name (.table false true sub) fields
    | some (.table false dotted sub) =>
      if rest.length = 1 ∧ !dotted then none
      else (assign v rest sub).map fun sub => setField name (.table false dotted sub) fields
    | some _ => none

mutual

def Item.toToml : Item → Toml
  | .value v => v
  | .table _ _ fields => .table (fieldsToToml fields)
  | .tables elements => .array (elementsToToml elements)

def fieldsToToml : List (String × Item) → List (String × Toml)
  | [] => []
  | (name, i) :: rest => (name, i.toToml) :: fieldsToToml rest

def elementsToToml : List (List (String × Item)) → List Toml
  | [] => []
  | fields :: rest => .table (fieldsToToml fields) :: elementsToToml rest

end

/-- The fields with those of the table at a place changed. The last element of an array of tables
stands for the array. -/
def within (change : Fields → Option Fields) : List String → Fields → Option Fields
  | [], fields => change fields
  | name :: rest, fields =>
    match fields.lookup name with
    | none => (within change rest []).map fun sub => setField name (.table false false sub) fields
    | some (.table defined dotted sub) =>
      (within change rest sub).map fun sub => setField name (.table defined dotted sub) fields
    | some (.tables elements) => do
      let last ← elements.getLast?
      let last ← within change rest last
      return setField name (.tables (elements.dropLast ++ [last])) fields
    | some (.value _) => none

def define (name : String) (fields : Fields) : Option Fields :=
  match fields.lookup name with
  | none => some (setField name (.table true false []) fields)
  | some (.table false false sub) => some (setField name (.table true false sub) fields)
  | some _ => none

def addElement (name : String) (fields : Fields) : Option Fields :=
  match fields.lookup name with
  | none => some (setField name (.tables [[]]) fields)
  | some (.tables elements) => some (setField name (.tables (elements ++ [[]])) fields)
  | some _ => none

end CompileFlags.Toml
