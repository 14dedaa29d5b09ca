/-
Numbers as bytes, continued.

What is written of a number is its remainder by the power of 256 that the bytes have
room for, and a number of several words is written word by word.
-/
import Mathlib.Algebra.Group.Nat.Defs
import DeviceGen.LittleEndian

namespace DeviceGen.LittleEndian

/-- Reading gives back what fits into the bytes written. -/
theorem value_bytes (n v : Nat) : value (bytes n v) = v % 256 ^ n := by
  induction n generalizing v with
  | zero => simp [bytes, value, Nat.mod_one]
  | succ n ih =>
    have hlow : (UInt8.ofNat (v % 256)).toNat = v % 256 := by
      rw [UInt8.toNat_ofNat']
      omega
    rw [bytes, value, ih, hlow, Nat.pow_succ', Nat.mod_mul]

theorem bytes_append (m n v : Nat) : bytes (m + n) v = bytes m v ++ bytes n (v / 256 ^ m) := by
  induction m generalizing v with
  | zero => simp [bytes]
  | succ m ih =>
      rw [Nat.add_right_comm, bytes, bytes, ih, List.cons_append, Nat.div_div_eq_div_mul,
        ← Nat.pow_succ']

/-- Only the part of a number that fits is written. -/
theorem bytes_mod (n v : Nat) : bytes n (v % 256 ^ n) = bytes n v := by
  have h := bytes_value (bytes n v)
  rwa [length_bytes, value_bytes] at h

theorem value_append (low high : List UInt8) :
    value (low ++ high) = value low + 256 ^ low.length * value high := by
  induction low with
  | nil => simp [value]
  | cons b low ih =>
      rw [List.cons_append, value, ih, value, List.length_cons, Nat.pow_succ', Nat.mul_add,
        Nat.mul_assoc, Nat.add_assoc]

theorem value_lt (bs : List UInt8) : value bs < 256 ^ bs.length := by
  have h := value_bytes bs.length (value bs)
  rw [bytes_value] at h
  rw [h]
  exact Nat.mod_lt _ (Nat.pow_pos (by decide))

end DeviceGen.LittleEndian
