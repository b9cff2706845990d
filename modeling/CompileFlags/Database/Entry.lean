import CompileFlags.Json.Reader

set_option autoImplicit false

namespace CompileFlags.Database

structure Entry where
  directory : String
  file : String
  arguments : Option (List String)
  command : Option String
deriving DecidableEq

def field? (fields : List (Option String × Json)) (name : String) : Option (Option Json) :=
  match fields.filter fun f => f.1 = some name with
  | [] => some none
  | [(_, v)] => some (some v)
  | _ => none

def optional? {α : Type} (read : Json → Option α) (v : Option Json) : Option (Option α) :=
  (v.getD .null).nullable? read

def Entry.ofJson? : Json → Option Entry
  | .object fields => do
    if fields.any fun f => f.1.isNone then failure
    let directory ← (← field? fields "directory").bind Json.text?
    let file ← (← field? fields "file").bind Json.text?
    let arguments ← optional? Json.texts? (← field? fields "arguments")
    let command ← optional? Json.text? (← field? fields "command")
    return ⟨directory, file, arguments, command⟩
  | .array (directory :: file :: rest) => do
    if 2 < rest.length then failure
    return ⟨← directory.text?, ← file.text?, ← optional? Json.texts? rest[0]?,
      ← optional? Json.text? rest[1]?⟩
  | _ => none

def entries? (content : String) : Option (List Entry) := do
  match ← Json.parse? content with
  | .array items => items.mapM Entry.ofJson?
  | _ => none

end CompileFlags.Database
