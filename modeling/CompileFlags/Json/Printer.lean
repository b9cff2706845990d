set_option autoImplicit false

namespace CompileFlags.Json

def hexChar (n : Nat) : Char :=
  if n < 10 then Char.ofNat (0x30 + n) else Char.ofNat (0x57 + n)

def quoteChar (c : Char) : List Char :=
  if c = '"' then ['\\', '"']
  else if c = '\\' then ['\\', '\\']
  else if c = '\n' then ['\\', 'n']
  else if c = '\r' then ['\\', 'r']
  else if c = '\t' then ['\\', 't']
  else if c = '\x08' then ['\\', 'b']
  else if c = '\x0c' then ['\\', 'f']
  else if c.toNat < 0x20 then ['\\', 'u', '0', '0', hexChar (c.toNat / 16), hexChar (c.toNat % 16)]
  else [c]

def quote (s : String) : String :=
  "\"" ++ String.ofList (s.toList.flatMap quoteChar) ++ "\""

/-- The lines of an array of strings, the brackets on lines of their own unless it is empty. -/
def arrayText (margin : String) (items : List String) : String :=
  if items.isEmpty then "[]"
  else
    let inner := items.map fun item => margin ++ "  " ++ quote item
    "[\n" ++ ",\n".intercalate inner ++ "\n" ++ margin ++ "]"

end CompileFlags.Json
