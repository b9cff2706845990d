set_option autoImplicit false

namespace CompileFlags.Text.Utf8

/-- The second bytes that may follow a given first byte, and the number of bytes after that. -/
structure Lead where
  low : Nat
  high : Nat
  more : Nat
  bits : Nat

def lead? (b : Nat) : Option Lead :=
  if 0xc2 ≤ b && b ≤ 0xdf then some ⟨0x80, 0xbf, 0, b - 0xc0⟩
  else if b = 0xe0 then some ⟨0xa0, 0xbf, 1, 0⟩
  else if b = 0xed then some ⟨0x80, 0x9f, 1, 0xd⟩
  else if 0xe1 ≤ b && b ≤ 0xef then some ⟨0x80, 0xbf, 1, b - 0xe0⟩
  else if b = 0xf0 then some ⟨0x90, 0xbf, 2, 0⟩
  else if 0xf1 ≤ b && b ≤ 0xf3 then some ⟨0x80, 0xbf, 2, b - 0xf0⟩
  else if b = 0xf4 then some ⟨0x80, 0x8f, 2, 4⟩
  else none

/-- A decoder between two characters, or inside one: the bits read so far, how many bytes are
still to come, and the range of the next of them. -/
inductive State where
  | start
  | inside (bits more low high : Nat)

def run : State → List UInt8 → List (Option Char)
  | .start, [] => []
  | .inside .., [] => [none]
  | .start, b :: r => first b.toNat r
  | .inside bits more low high, b :: r =>
    if low ≤ b.toNat && b.toNat ≤ high then
      let bits := bits * 64 + (b.toNat - 0x80)
      match more with
      | 0 => some (Char.ofNat bits) :: run .start r
      | more + 1 => run (.inside bits more 0x80 0xbf) r
    else none :: first b.toNat r
where
  first (b : Nat) (r : List UInt8) : List (Option Char) :=
    if b < 0x80 then some (Char.ofNat b) :: run .start r
    else match lead? b with
      | some l => run (.inside l.bits l.more l.low l.high) r
      | none => none :: run .start r

def pieces (bytes : List UInt8) : List (Option Char) :=
  run .start bytes

def decode? (bytes : List UInt8) : Option String :=
  ((pieces bytes).mapM id).map String.ofList

def decodeLossy (bytes : List UInt8) : String :=
  String.ofList ((pieces bytes).map fun piece => piece.getD '\ufffd')

def encode (s : String) : List UInt8 :=
  s.toUTF8.toList

theorem run_ascii {s : List Char} (h : s.all (fun c => c.toNat < 0x80) = true) :
    run .start (s.map fun c => UInt8.ofNat c.toNat) = s.map some := by
  induction s with
  | nil => rw [List.map_nil, run]; rfl
  | cons c s ih =>
    obtain ⟨hc, hs⟩ : c.toNat < 0x80 ∧ s.all (fun c => c.toNat < 0x80) = true := by
      simpa using h
    have hbyte : (UInt8.ofNat c.toNat).toNat = c.toNat := by
      rw [UInt8.toNat_ofNat']
      omega
    rw [List.map_cons, run, run.first, hbyte, if_pos hc, Char.ofNat_toNat, ih hs, List.map_cons]

theorem decode?_ascii {s : String} (h : s.toList.all (fun c => c.toNat < 0x80) = true) :
    decode? (s.toList.map fun c => UInt8.ofNat c.toNat) = some s := by
  have hall : (s.toList.map some).mapM id = some s.toList := by
    induction s.toList with
    | nil => rfl
    | cons c s ih => simp [ih]
  rw [decode?, pieces, run_ascii h, hall, Option.map_some, String.ofList_toList]

theorem decodeLossy_ascii {s : String} (h : s.toList.all (fun c => c.toNat < 0x80) = true) :
    decodeLossy (s.toList.map fun c => UInt8.ofNat c.toNat) = s := by
  simp [decodeLossy, pieces, run_ascii h, Function.comp_def]

end CompileFlags.Text.Utf8
