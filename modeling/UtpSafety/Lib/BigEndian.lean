import Mathlib.Tactic.Common
import Mathlib.Tactic.Ring

/-!
# Big-endian numbers

A number written in a fixed count of bytes, the most significant one first, and a reader that takes
such a number off the front of a byte list and fails when too few bytes are left. Each undoes the
other.
-/

namespace BigEndian

/-- The `width` low bytes of `v`, most significant first. -/
def encode : Nat → Nat → List UInt8
  | 0, _ => []
  | width + 1, v => UInt8.ofNat (v / 256 ^ width) :: encode width v

def decode : List UInt8 → Nat
  | [] => 0
  | byte :: bytes => byte.toNat * 256 ^ bytes.length + decode bytes

def get (width : Nat) (bytes : List UInt8) : Option (Nat × List UInt8) :=
  if width ≤ bytes.length then some (decode (bytes.take width), bytes.drop width) else none

@[simp]
theorem length_encode (width v : Nat) : (encode width v).length = width := by
  induction width with
  | zero => rfl
  | succ width ih => simp [encode, ih]

theorem decode_lt (bytes : List UInt8) : decode bytes < 256 ^ bytes.length := by
  induction bytes with
  | nil => simp [decode]
  | cons byte bytes ih =>
      have hbyte : byte.toNat ≤ 255 := Nat.le_of_lt_succ byte.toNat_lt
      calc decode (byte :: bytes)
          = byte.toNat * 256 ^ bytes.length + decode bytes := rfl
        _ < byte.toNat * 256 ^ bytes.length + 256 ^ bytes.length := by omega
        _ = (byte.toNat + 1) * 256 ^ bytes.length := by ring
        _ ≤ 256 * 256 ^ bytes.length := Nat.mul_le_mul_right _ (by omega)
        _ = 256 ^ (byte :: bytes).length := by rw [List.length_cons]; ring

theorem encode_mod (width v : Nat) : encode width (v % 256 ^ width) = encode width v := by
  induction width generalizing v with
  | zero => rfl
  | succ width ih =>
      have hhead : UInt8.ofNat (v % 256 ^ (width + 1) / 256 ^ width)
          = UInt8.ofNat (v / 256 ^ width) := by
        apply UInt8.toNat_inj.mp
        rw [pow_succ, Nat.mod_mul_right_div_self]
        simp only [UInt8.toNat_ofNat']
        omega
      have htail : v % 256 ^ (width + 1) % 256 ^ width = v % 256 ^ width :=
        Nat.mod_mod_of_dvd _ (pow_dvd_pow 256 (Nat.le_succ width))
      rw [encode, encode, hhead, ← ih (v % 256 ^ (width + 1)), htail, ih]

theorem decode_encode (width v : Nat) : decode (encode width v) = v % 256 ^ width := by
  induction width with
  | zero => simp [encode, decode, Nat.mod_one]
  | succ width ih =>
      have hbyte : (UInt8.ofNat (v / 256 ^ width)).toNat = v / 256 ^ width % 256 :=
        UInt8.toNat_ofNat'
      rw [encode, decode, length_encode, ih, hbyte, pow_succ 256 width, Nat.mod_mul]
      ring

theorem encode_decode (bytes : List UInt8) : encode bytes.length (decode bytes) = bytes := by
  induction bytes with
  | nil => rfl
  | cons byte bytes ih =>
      have hlow := decode_lt bytes
      have hhead : (byte.toNat * 256 ^ bytes.length + decode bytes) / 256 ^ bytes.length
          = byte.toNat := by
        rw [Nat.mul_comm, Nat.mul_add_div (Nat.pow_pos (by omega)), Nat.div_eq_of_lt hlow, Nat.add_zero]
      have htail : (byte.toNat * 256 ^ bytes.length + decode bytes) % 256 ^ bytes.length
          = decode bytes := by
        rw [Nat.mul_comm, Nat.mul_add_mod, Nat.mod_eq_of_lt hlow]
      rw [List.length_cons, decode, encode, hhead, ← encode_mod, htail, ih]
      simp

theorem get_encode {width v : Nat} (hv : v < 256 ^ width) (rest : List UInt8) :
    get width (encode width v ++ rest) = some (v, rest) := by
  simp [get, decode_encode, Nat.mod_eq_of_lt hv]

theorem eq_of_get {width v : Nat} {bytes rest : List UInt8} (hget : get width bytes = some (v, rest)) :
    v < 256 ^ width ∧ bytes = encode width v ++ rest := by
  unfold get at hget
  split at hget
  · rename_i hwidth
    simp only [Option.some.injEq, Prod.mk.injEq] at hget
    obtain ⟨rfl, rfl⟩ := hget
    have hlength : (bytes.take width).length = width := by simp [hwidth]
    have hlt := decode_lt (bytes.take width)
    have hencode := encode_decode (bytes.take width)
    rw [hlength] at hlt hencode
    exact ⟨hlt, by rw [hencode, List.take_append_drop]⟩
  · cases hget

theorem get_isSome {width : Nat} {bytes : List UInt8} (hwidth : width ≤ bytes.length) :
    get width bytes = some (decode (bytes.take width), bytes.drop width) := by
  simp [get, hwidth]

theorem exists_encode {width : Nat} {bytes : List UInt8} (hwidth : width ≤ bytes.length) :
    ∃ v < 256 ^ width, ∃ rest, bytes = encode width v ++ rest := by
  obtain ⟨hlt, heq⟩ := eq_of_get (get_isSome hwidth)
  exact ⟨decode (bytes.take width), hlt, bytes.drop width, heq⟩

theorem drop_encode_append (width v n : Nat) (rest : List UInt8) :
    (encode width v ++ rest).drop (n + width) = rest.drop n := by
  rw [Nat.add_comm, ← List.drop_drop, List.drop_left' (length_encode width v)]

theorem decode_take_encode_append {width v : Nat} (hv : v < 256 ^ width) (rest : List UInt8) :
    decode ((encode width v ++ rest).take width) = v := by
  rw [List.take_left' (length_encode width v), decode_encode, Nat.mod_eq_of_lt hv]

end BigEndian
