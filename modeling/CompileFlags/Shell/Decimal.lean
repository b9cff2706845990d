import CompileFlags.Shell.Bytes

set_option autoImplicit false

namespace CompileFlags.Shell

/-- A quotient of naturals, with a sign. -/
structure Decimal where
  negative : Bool
  num : Nat
  den : Nat

namespace Decimal

def roundDiv (num den : Nat) : Nat :=
  let q := num / den
  let r := 2 * (num % den)
  if den < r ∨ (r = den ∧ q % 2 = 1) then q + 1 else q

def ofFloat (x : Float) : Decimal :=
  let bits := x.toBits.toNat
  let exponent := bits / 0x10000000000000 % 0x800
  let fraction := bits % 0x10000000000000
  let m := if exponent = 0 then fraction else fraction + 0x10000000000000
  let e := (if exponent = 0 then 1 else exponent)
  { negative := bits / 0x8000000000000000 = 1
    num := m * Nat.pow 2 (e - 1075)
    den := Nat.pow 2 (1075 - e) }

def read? (s : Chars) : Option (Decimal × Chars) :=
  let s := s.dropWhile fun c => isBlank c || c == '\n'
  let (negative, s) := match s with
    | '-' :: rest => (true, rest)
    | '+' :: rest => (false, rest)
    | s => (false, s)
  let whole := s.takeWhile Char.isDigit
  let rest := s.drop whole.length
  let (part, rest) := match rest with
    | '.' :: rest =>
      let part := rest.takeWhile Char.isDigit
      (part, rest.drop part.length)
    | rest => ([], rest)
  if whole.isEmpty ∧ part.isEmpty then none
  else
    let (exponent, rest) : Int × Chars := match rest with
      | e :: sign :: more =>
        let (minus, ds) := if sign = '-' ∨ sign = '+' then (sign == '-', more)
          else (false, sign :: more)
        let digits := ds.takeWhile Char.isDigit
        if (e = 'e' ∨ e = 'E') ∧ !digits.isEmpty then
          (if minus then -(natOf digits : Int) else natOf digits, ds.drop digits.length)
        else (0, rest)
      | rest => (0, rest)
    let digits := natOf (whole ++ part)
    let e : Int := exponent - part.length
    let x := if e < 0 then Float.ofScientific digits true (min e.natAbs 2000)
      else Float.ofScientific digits false (min e.natAbs 2000)
    let d := ofFloat x
    some ({ d with negative := negative }, rest)

def padded (digits n : Nat) : Chars :=
  let ds := natText n
  List.replicate (digits - ds.length) '0' ++ ds

def pointed (places n : Nat) (always : Bool) : Chars :=
  let ds := padded (places + 1) n
  let whole := ds.take (ds.length - places)
  let part := ds.drop (ds.length - places)
  if part.isEmpty ∧ !always then whole else whole ++ '.' :: part

def fixed (d : Decimal) (places : Nat) (always : Bool) : Chars :=
  pointed places (roundDiv (d.num * Nat.pow 10 places) d.den) always

def scaled (d : Decimal) (e : Int) : Nat :=
  if e < 0 then roundDiv d.num (d.den * Nat.pow 10 e.natAbs)
  else roundDiv (d.num * Nat.pow 10 e.natAbs) d.den

/-- The exponent of the first digit when the number is rounded to so many digits more. -/
def exponent (d : Decimal) (places : Nat) : Int :=
  if d.num = 0 then 0
  else
    let guess : Int := (Nat.toDigits 10 (d.num / d.den)).length - 1
    let small : Int := -((Nat.toDigits 10 (d.den / d.num)).length : Int)
    let start := if d.num < d.den then small else guess
    let fits (e : Int) : Bool :=
      let n := d.scaled (places - e)
      Nat.pow 10 places ≤ n && n < Nat.pow 10 (places + 1)
    if fits start then start else if fits (start + 1) then start + 1 else start - 1

def scientific (d : Decimal) (places : Nat) (always : Bool) : Chars :=
  let e := d.exponent places
  pointed places (d.scaled (places - e)) always ++
    ['e', if e < 0 then '-' else '+'] ++ padded 2 e.natAbs

def withoutZeros (s : Chars) : Chars :=
  let mantissa := s.takeWhile (· != 'e')
  let rest := s.drop mantissa.length
  if '.' ∈ mantissa then
    let kept := (mantissa.reverse.dropWhile (· == '0')).reverse
    (if kept.getLast? = some '.' then kept.dropLast else kept) ++ rest
  else s

def general (d : Decimal) (digits : Nat) (always : Bool) : Chars :=
  let digits := max digits 1
  let e := d.exponent (digits - 1)
  let text := if -4 ≤ e ∧ e < digits then d.fixed (digits - 1 - e).toNat always
    else d.scientific (digits - 1) always
  if always then text else withoutZeros text

end Decimal

end CompileFlags.Shell
