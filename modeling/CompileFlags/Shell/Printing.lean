import CompileFlags.Shell.Decimal

set_option autoImplicit false

namespace CompileFlags.Shell

/-- The escapes beyond those of one letter: octal digits behind a zero or at once, hexadecimal ones,
quotes, and `\c`, which ends the text. -/
structure Escapes where
  zero : Bool := false
  octal : Bool := false
  hex : Bool := false
  quotes : Bool := false
  stop : Bool := false

namespace Escapes

def basicText : Escapes := { zero := true, octal := true, stop := true }

def basicFormat : Escapes := { octal := true }

def extendedText : Escapes := { zero := true, hex := true, stop := true }

def fullText : Escapes := { zero := true, octal := true, hex := true, stop := true }

def fullFormat : Escapes := { octal := true, hex := true, quotes := true, stop := true }

end Escapes

/-- A character by its number. Beyond ASCII, where no encoding is known, it stays an escape. -/
def unicodeText (n : Nat) : Chars :=
  if n < 0x80 then [Char.ofNat n]
  else
    let digits := (Nat.toDigits 16 n).map Char.toUpper
    let width := if n < 0x10000 then 4 else 8
    ['\\', if n < 0x10000 then 'u' else 'U'] ++ List.replicate (width - digits.length) '0' ++ digits

def Escapes.read (e : Escapes) (c : Char) (r : Chars) : Chars × Nat :=
  let digits (p : Char → Bool) (most : Nat) (s : Chars) := (s.take most).takeWhile p
  if e.zero && c == '0' then
    let ds := digits isOctalDigit 3 r
    ([Char.ofNat (octalValue ds % 256)], 1 + ds.length)
  else if e.octal && isOctalDigit c then
    let ds := digits isOctalDigit 3 (c :: r)
    ([Char.ofNat (octalValue ds % 256)], ds.length)
  else if e.hex && c == 'x' && r.head?.any isHexDigit then
    let ds := digits isHexDigit 2 r
    ([Char.ofNat (hexValue ds)], 1 + ds.length)
  else if e.hex && (c == 'u' || c == 'U') && r.head?.any isHexDigit then
    let ds := digits isHexDigit (if c = 'u' then 4 else 8) r
    (unicodeText (hexValue ds), 1 + ds.length)
  else if e.hex && c == 'E' then (['\x1b'], 1)
  else if e.quotes && (c == '"' || c == '\x27' || c == '?') then ([c], 1)
  else match letterEscape? c with
    | some d => ([d], 1)
    | none => (['\\', c], 1)

def unescape (e : Escapes) (s : Chars) : Chars × Bool :=
  go s.length s
where
  go : Nat → Chars → Chars × Bool
    | n + 1, '\\' :: c :: r =>
      if e.stop && c == 'c' then ([], true)
      else
        let (text, taken) := e.read c r
        emit text (go n ((c :: r).drop taken))
    | n + 1, c :: r => emit [c] (go n r)
    | _, [] => ([], false)
    | 0, s => (s, false)
  emit (start : Chars) (rest : Chars × Bool) : Chars × Bool :=
    (start ++ rest.1, rest.2)

def echoText (escapes : Option Escapes) (newline : Bool) (args : List Chars) : Chars :=
  let whole := [' '].intercalate args
  let (text, ended) := match escapes with
    | some e => unescape e whole
    | none => (whole, false)
  if newline && !ended then text ++ ['\n'] else text

def basicEcho : List Chars → Chars
  | ['-', 'n'] :: args => echoText (some .basicText) false args
  | args => echoText (some .basicText) true args

def optionEcho (on : Escapes) (args : List Chars) : Chars :=
  let isOption (arg : Chars) : Bool := match arg with
    | '-' :: c :: rest => (c :: rest).all fun c => c == 'n' || c == 'e' || c == 'E'
    | _ => false
  let options := (args.takeWhile isOption).flatMap fun arg => arg.drop 1
  let args := args.dropWhile isOption
  let escapes := (options.filter (· != 'n')).getLast? = some 'e'
  echoText (if escapes then some on else none) (!options.contains 'n') args

/-- A width or a precision of a conversion. -/
inductive Measure where
  | absent
  | fixed (n : Nat)
  | argument

inductive FormatPiece where
  | text (s : Chars)
  | stop
  | conversion (flags : Chars) (width precision : Measure) (letter : Char)
  | invalid (s : Chars)

def measureOf (s : Chars) : Measure × Chars :=
  match s with
  | '*' :: rest => (.argument, rest)
  | s =>
    let ds := s.takeWhile Char.isDigit
    (if ds.isEmpty then .absent else .fixed (natOf ds), s.drop ds.length)

/-- The pieces of a format; the length bounds their number. A conversion ends in one of some letters,
and may have others before it. -/
def formatPieces (e : Escapes) (modifiers letters : Chars) : Nat → Chars → List FormatPiece
  | 0, _ => []
  | _, [] => []
  | n + 1, '%' :: '%' :: rest => .text ['%'] :: formatPieces e modifiers letters n rest
  | _ + 1, ['%'] => [.invalid []]
  | n + 1, '%' :: s =>
    let flags := s.takeWhile fun c => "#-+ 0".toList.contains c
    let (width, rest) := measureOf (s.drop flags.length)
    let (precision, rest) := match rest with
      | '.' :: rest => match measureOf rest with
        | (.absent, rest) => (Measure.fixed 0, rest)
        | found => found
      | rest => (.absent, rest)
    let rest := rest.dropWhile modifiers.contains
    match rest with
    | c :: after =>
      if letters.contains c then
        .conversion flags width precision c :: formatPieces e modifiers letters n after
      else [.invalid (('%' :: s).take (s.length - after.length + 1))]
    | [] => [.invalid []]
  | n + 1, '\\' :: c :: r =>
    if e.stop && c == 'c' then [.stop]
    else
      let (text, taken) := e.read c r
      .text text :: formatPieces e modifiers letters n ((c :: r).drop taken)
  | n + 1, c :: r => .text [c] :: formatPieces e modifiers letters n r

/-- What a `printf` has printed so far, the arguments that are left, and what was wrong with those
it has used. -/
structure Printed where
  text : Chars := []
  args : List Chars
  complaints : List Chars := []
  stopped : Bool := false
  isInvalid : Bool := false

structure PrintfStyle where
  format : Escapes
  argument : Escapes
  modifiers : Chars
  letters : Chars
  quote : Chars → Chars
  notNumber : Chars → Chars
  notWhole : Chars → Chars
  invalid : Chars → Chars

def field (left : Bool) (width : Nat) (s : Chars) : Chars :=
  let pad := List.replicate (width - s.length) ' '
  if left then s ++ pad else pad ++ s

def integerAt (s : Chars) : Nat × Chars × Bool :=
  match s with
  | '0' :: x :: rest =>
    let hex := rest.takeWhile isHexDigit
    if (x = 'x' ∨ x = 'X') ∧ !hex.isEmpty then (hexValue hex, rest.drop hex.length, true)
    else
      let octal := (x :: rest).takeWhile isOctalDigit
      (octalValue octal, (x :: rest).drop octal.length, true)
  | s =>
    let ds := s.takeWhile Char.isDigit
    (natOf ds, s.drop ds.length, !ds.isEmpty)

def integerOf (style : PrintfStyle) (arg : Chars) : Int × List Chars :=
  match arg with
  | [] => (0, [])
  | '\x27' :: rest | '"' :: rest => ((rest.headD '\x00').toNat, [])
  | arg =>
    let s := arg.dropWhile fun c => isBlank c || c == '\n'
    let (negative, s) := match s with
      | '-' :: rest => (true, rest)
      | '+' :: rest => (false, rest)
      | s => (false, s)
    let (n, rest, found) := integerAt s
    let value : Int := if negative then -n else n
    if !found then (0, [style.notNumber arg])
    else if rest.isEmpty then (value, [])
    else (value, [style.notWhole arg])

def digitsIn (base n : Nat) : Chars := Nat.toDigits base n

def numberField (flags : Chars) (width : Nat) (zeros : Bool) (sign body : Chars) : Chars :=
  let left := flags.contains '-'
  if zeros && flags.contains '0' && !left then
    sign ++ List.replicate (width - (sign.length + body.length)) '0' ++ body
  else field left width (sign ++ body)

def signOf (flags : Chars) (negative : Bool) : Chars :=
  if negative then ['-']
  else if flags.contains '+' then ['+']
  else if flags.contains ' ' then [' '] else []

def integerText (flags : Chars) (width : Nat) (precision : Option Nat) (letter : Char) (n : Int) :
    Chars :=
  let unsigned := (n % 0x10000000000000000).toNat
  let (sign, digits) : Chars × Chars := match letter with
    | 'o' => ([], digitsIn 8 unsigned)
    | 'u' => ([], digitsIn 10 unsigned)
    | 'x' => (if flags.contains '#' ∧ n ≠ 0 then ['0', 'x'] else [], digitsIn 16 unsigned)
    | 'X' => (if flags.contains '#' ∧ n ≠ 0 then ['0', 'X'] else [],
        (digitsIn 16 unsigned).map Char.toUpper)
    | _ => (signOf flags (n < 0), digitsIn 10 n.natAbs)
  let digits := if letter = 'o' ∧ flags.contains '#' ∧ digits.head? ≠ some '0' then '0' :: digits
    else digits
  let digits := match precision with
    | some p => if p = 0 ∧ n = 0 then [] else List.replicate (p - digits.length) '0' ++ digits
    | none => digits
  numberField flags width precision.isNone sign digits

def fractionText (flags : Chars) (width : Nat) (precision : Option Nat) (letter : Char)
    (d : Decimal) : Chars :=
  let places := precision.getD 6
  let always := flags.contains '#'
  let body := match letter.toLower with
    | 'e' => d.scientific places always
    | 'g' => d.general places always
    | _ => d.fixed places always
  let body := if letter.isUpper then body.map Char.toUpper else body
  numberField flags width true (signOf flags d.negative) body

namespace Printed

def print (p : Printed) (s : Chars) : Printed := { p with text := p.text ++ s }

def next (p : Printed) : Option Chars × Printed :=
  (p.args.head?, { p with args := p.args.drop 1 })

def measure (p : Printed) (style : PrintfStyle) : Measure → Option Int × Printed
  | .absent => (none, p)
  | .fixed n => (some n, p)
  | .argument =>
    let (arg, p) := p.next
    let (n, complaints) := integerOf style (arg.getD [])
    (some n, { p with complaints := p.complaints ++ complaints })

def piece (style : PrintfStyle) (p : Printed) : FormatPiece → Printed
  | .text s => if p.stopped then p else p.print s
  | .stop => { p with stopped := true }
  | .invalid s =>
    if p.stopped then p
    else { p with
      complaints := p.complaints ++ [style.invalid s]
      stopped := true
      isInvalid := true }
  | .conversion flags width precision letter =>
    if p.stopped then p
    else
      let (w, p) := p.measure style width
      let (prec, p) := p.measure style precision
      let flags := if w.any (· < 0) then '-' :: flags else flags
      let width := (w.getD 0).natAbs
      let precision := prec.bind fun n => if n < 0 then none else some n.toNat
      let left := flags.contains '-'
      let (arg, p) := p.next
      let cut (s : Chars) : Chars := match precision with
        | some n => s.take n
        | none => s
      match letter with
      | 'c' => p.print (field left width [(arg.getD []).headD '\x00'])
      | 'q' => p.print (field left width (cut (style.quote (arg.getD []))))
      | 's' => p.print (field left width (cut (arg.getD [])))
      | 'b' =>
        let (text, ended) := unescape style.argument (arg.getD [])
        { p.print (field left width (cut text)) with stopped := ended }
      | _ =>
        if "eEfFgG".toList.contains letter then
          match Decimal.read? (arg.getD ['0']) with
          | some (d, rest) =>
            let complaints := if rest.isEmpty then [] else [style.notWhole (arg.getD [])]
            { p.print (fractionText flags width precision letter d) with
              complaints := p.complaints ++ complaints }
          | none =>
            { p.print (fractionText flags width precision letter ⟨false, 0, 1⟩) with
              complaints := p.complaints ++ [style.notNumber (arg.getD [])] }
        else
          let (n, complaints) := integerOf style (arg.getD [])
          { p.print (integerText flags width precision letter n) with
            complaints := p.complaints ++ complaints }

end Printed

def printPieces (style : PrintfStyle) (pieces : List FormatPiece) : Nat → Printed → Printed
  | 0, p => p
  | n + 1, p =>
    let q := pieces.foldl (Printed.piece style) p
    if q.stopped || q.args.isEmpty || q.args.length == p.args.length then q
    else printPieces style pieces n q

def printfText (style : PrintfStyle) (format : Chars) (args : List Chars) : Printed :=
  printPieces style (formatPieces style.format style.modifiers style.letters format.length format) (args.length + 1)
    { args := args }

end CompileFlags.Shell
