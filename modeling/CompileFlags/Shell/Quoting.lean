import CompileFlags.Shell.Bytes

set_option autoImplicit false

namespace CompileFlags.Shell

def quotedText (s : Chars) : Chars :=
  ['\x27'] ++ (s.flatMap fun c =>
    if c = '\x27' then ['\x27', '"', '\x27', '"', '\x27'] else [c]) ++ ['\x27']

/-- A text that a shell reads back as one word: with backslashes before what is special, or in dollar
quotes if there are control characters. -/
def escapedText (s : Chars) : Chars :=
  let isControl (c : Char) : Bool := c < ' ' || '\x7f' ≤ c
  if s.isEmpty then ['\x27', '\x27']
  else if s.any isControl then dollarQuoted s
  else s.zipIdx.flatMap fun (c, i) =>
    if c.isAlphanum || "_-+=./:@%".toList.contains c || ((c == '#' || c == '~') && i != 0) then [c]
    else ['\\', c]
where
  dollarQuoted (s : Chars) : Chars :=
    ['$', '\x27'] ++ s.flatMap dollarEscape ++ ['\x27']
  dollarEscape (c : Char) : Chars :=
    match c with
    | '\n' => ['\\', 'n']
    | '\t' => ['\\', 't']
    | '\r' => ['\\', 'r']
    | '\x07' => ['\\', 'a']
    | '\x08' => ['\\', 'b']
    | '\x0b' => ['\\', 'v']
    | '\x0c' => ['\\', 'f']
    | '\x1b' => ['\\', 'E']
    | '\\' => ['\\', '\\']
    | '\x27' => ['\\', '\x27']
    | c =>
      if c < ' ' || '\x7f' ≤ c then
        let digits := Nat.toDigits 8 c.toNat
        '\\' :: List.replicate (3 - digits.length) '0' ++ digits
      else [c]

def requotedText (s : Chars) : Chars :=
  if s.any fun c => c < ' ' || '\x7f' ≤ c then escapedText s
  else
    ['\x27'] ++ (s.flatMap fun c =>
      if c = '\x27' then ['\x27', '\\', '\x27', '\x27'] else [c]) ++ ['\x27']

def doubleQuotedText (s : Chars) : Chars :=
  if s.any fun c => c < ' ' || '\x7f' ≤ c then escapedText s
  else
    ['"'] ++ (s.flatMap fun c =>
      if c = '"' ∨ c = '\\' ∨ c = '$' ∨ c = '\x60' then ['\\', c] else [c]) ++ ['"']

end CompileFlags.Shell
