import CompileFlags.Text.Utf8
import Mathlib.Algebra.Group.Nat.Defs
import Mathlib.Tactic.SplitIfs

set_option autoImplicit false

namespace CompileFlags.Text.Utf8

def following (v : Nat) : Nat :=
  if v ≤ 0x7f then 0 else if v ≤ 0x7ff then 1 else if v ≤ 0xffff then 2 else 3

def mark : Nat → Nat
  | 0 => 0
  | 1 => 0xc0
  | 2 => 0xe0
  | _ => 0xf0

def firstByte (v : Nat) : Nat :=
  v / 64 ^ following v + mark (following v)

def digits : Nat → Nat → List UInt8
  | 0, _ => []
  | count + 1, v => UInt8.ofNat (v / 64 ^ count % 64 + 0x80) :: digits count v

theorem toNat_lt (c : Char) : c.toNat < 0x110000 := by
  have h := c.valid
  simp only [UInt32.isValidChar, Nat.isValidChar] at h
  change c.val.toNat < _
  omega

theorem encodeChar_eq (c : Char) :
    String.utf8EncodeChar c = UInt8.ofNat (firstByte c.toNat) :: digits (following c.toNat) c.toNat := by
  have hvalid := toNat_lt c
  have hval : c.val.toNat = c.toNat := rfl
  rw [String.utf8EncodeChar, hval]
  generalize c.toNat = v at hvalid
  unfold firstByte following
  split
  · simp [mark, digits]
  · split
    · rw [show v / 64 % 0x20 = v / 64 by omega]
      simp [mark, digits]
    · split
      · rw [show v / 4096 % 0x10 = v / 4096 by omega]
        simp [mark, digits]
      · rw [show v / 262144 % 0x08 = v / 262144 by omega]
        simp [mark, digits]

theorem firstByte_lt {v : Nat} (h : v < 0x110000) : firstByte v < 256 := by
  unfold firstByte following
  split_ifs <;> simp only [mark] <;> omega

theorem firstByte_lt_firstByte {m n : Nat} (h : m < n) (hn : n < 0x110000)
    (hcount : following m ≠ following n) : firstByte m < firstByte n := by
  unfold firstByte
  unfold following at hcount ⊢
  split_ifs at hcount ⊢ <;> simp only [mark] <;> omega

theorem cons_lt_cons {a b : Nat} (h : a < b) (hb : b < 256) (r t : List UInt8) :
    UInt8.ofNat a :: r < UInt8.ofNat b :: t := by
  rw [List.cons_lt_cons_iff, UInt8.lt_iff_toNat_lt, UInt8.toNat_ofNat', UInt8.toNat_ofNat']
  left
  omega

theorem digits_append_lt {m n : Nat} (h : m < n) (r t : List UInt8) {count : Nat}
    (hfront : m / 64 ^ count = n / 64 ^ count) : digits count m ++ r < digits count n ++ t := by
  induction count with
  | zero =>
    simp only [Nat.pow_zero, Nat.div_one] at hfront
    omega
  | succ count ih =>
    rw [digits, digits, List.cons_append, List.cons_append]
    have hle : m / 64 ^ count ≤ n / 64 ^ count := Nat.div_le_div_right (Nat.le_of_lt h)
    rw [Nat.pow_succ, ← Nat.div_div_eq_div_mul, ← Nat.div_div_eq_div_mul] at hfront
    rcases Nat.lt_or_eq_of_le hle with hlt | heq
    · exact cons_lt_cons (by omega) (by omega) _ _
    · rw [heq, List.cons_lt_cons_iff]
      exact .inr ⟨rfl, ih heq⟩

theorem encodeChar_append_lt {c d : Char} (h : c < d) (r t : List UInt8) :
    String.utf8EncodeChar c ++ r < String.utf8EncodeChar d ++ t := by
  have hval : c.toNat < d.toNat := h
  have hbyte : firstByte d.toNat < 256 := firstByte_lt (toNat_lt d)
  rw [encodeChar_eq, encodeChar_eq, List.cons_append, List.cons_append]
  by_cases hcount : following c.toNat = following d.toNat
  · have hle : c.toNat / 64 ^ following c.toNat ≤ d.toNat / 64 ^ following c.toNat :=
      Nat.div_le_div_right (Nat.le_of_lt hval)
    rcases Nat.lt_or_eq_of_le hle with hlt | heq
    · refine cons_lt_cons ?_ hbyte _ _
      unfold firstByte
      rw [← hcount]
      omega
    · have hfirst : firstByte c.toNat = firstByte d.toNat := by
        unfold firstByte
        rw [← hcount, heq]
      rw [hfirst, ← hcount, List.cons_lt_cons_iff]
      exact .inr ⟨rfl, digits_append_lt hval r t heq⟩
  · exact cons_lt_cons (firstByte_lt_firstByte hval (toNat_lt d) hcount) hbyte _ _

theorem toList_loop (bytes : ByteArray) (i : Nat) (before : List UInt8) :
    ByteArray.toList.loop bytes i before = before.reverse ++ bytes.data.toList.drop i := by
  fun_induction ByteArray.toList.loop bytes i before with
  | case1 i before h ih =>
    have hi : i < bytes.data.toList.length := h
    have hget : bytes.get! i = bytes.data.toList[i] := getElem!_pos bytes.data i h
    rw [ih, hget, List.drop_eq_getElem_cons hi]
    simp
  | case2 i before h =>
    rw [List.drop_eq_nil_of_le (Nat.le_of_not_lt h), List.append_nil]

theorem encode_eq_flatMap (s : String) : encode s = s.toList.flatMap String.utf8EncodeChar := by
  rw [encode, ByteArray.toList, toList_loop, String.toUTF8_eq_toByteArray,
    ← String.utf8Encode_toList, List.utf8Encode, List.toList_data_toByteArray]
  rfl

theorem flatMap_encodeChar_lt {s t : List Char} (h : s < t) :
    s.flatMap String.utf8EncodeChar < t.flatMap String.utf8EncodeChar := by
  induction h with
  | @nil c t =>
    obtain ⟨byte, bytes, hbytes⟩ := List.exists_cons_of_ne_nil (@String.utf8EncodeChar_ne_nil c)
    rw [List.flatMap_cons, hbytes]
    exact List.nil_lt_cons _ _
  | @rel c s d t hlt =>
    rw [List.flatMap_cons, List.flatMap_cons]
    exact encodeChar_append_lt hlt _ _
  | cons _ ih =>
    rw [List.flatMap_cons, List.flatMap_cons]
    exact List.append_left_lt ih

theorem encode_lt_encode {s t : String} (h : s < t) : encode s < encode t := by
  rw [encode_eq_flatMap, encode_eq_flatMap]
  exact flatMap_encodeChar_lt h

end CompileFlags.Text.Utf8
