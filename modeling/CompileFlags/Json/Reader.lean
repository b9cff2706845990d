import CompileFlags.Json.Token

set_option autoImplicit false

namespace CompileFlags.Json

/-- An open array or object with what it holds so far, last first. An object remembers the name
that waits for its value. -/
inductive Frame where
  | array (items : List Json)
  | object (fields : List (Option String × Json)) (name : Option String)

inductive Expected where
  | value
  | firstValue
  | firstName
  | name
  | colon
  | separator
  | nothing (v : Json)

def finish (v : Json) : List Frame → Expected × List Frame
  | [] => (.nothing v, [])
  | .array items :: below => (.separator, .array (v :: items) :: below)
  | .object fields name :: below => (.separator, .object ((name, v) :: fields) none :: below)

def step? : Expected → List Frame → Token → Option (Expected × List Frame)
  | .value, open_, .scalar v => some (finish v open_)
  | .value, open_, .openArray => some (.firstValue, .array [] :: open_)
  | .value, open_, .openObject => some (.firstName, .object [] none :: open_)
  | .firstValue, .array items :: below, .closeArray => some (finish (.array items.reverse) below)
  | .firstValue, open_, .scalar v => some (finish v open_)
  | .firstValue, open_, .openArray => some (.firstValue, .array [] :: open_)
  | .firstValue, open_, .openObject => some (.firstName, .object [] none :: open_)
  | .firstName, .object fields _ :: below, .closeObject =>
    some (finish (.object fields.reverse) below)
  | .firstName, .object fields _ :: below, .scalar (.string name)
  | .name, .object fields _ :: below, .scalar (.string name) =>
    some (.colon, .object fields name :: below)
  | .colon, open_, .colon => some (.value, open_)
  | .separator, .array items :: below, .comma => some (.value, .array items :: below)
  | .separator, .array items :: below, .closeArray => some (finish (.array items.reverse) below)
  | .separator, .object fields name :: below, .comma => some (.name, .object fields name :: below)
  | .separator, .object fields _ :: below, .closeObject =>
    some (finish (.object fields.reverse) below)
  | _, _, _ => none

def ofTokensFrom : Expected → List Frame → List Token → Option Json
  | .nothing v, _, [] => some v
  | _, _, [] => none
  | expected, open_, t :: rest =>
    match step? expected open_ t with
    | some (expected, open_) => ofTokensFrom expected open_ rest
    | none => none

def parse? (s : String) : Option Json := do
  ofTokensFrom .value [] (← tokens? s.toList)

end CompileFlags.Json
