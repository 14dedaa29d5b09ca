/-
Numbers as bytes, the low byte first.

`bytes n v` are the low `n` bytes of `v`, and `value` reads bytes back; writing and
reading lose exactly what does not fit.
-/

namespace DeviceGen.LittleEndian

/-- The low `n` bytes of a number. -/
def bytes : (n : Nat) → Nat → List UInt8
  | 0, _ => []
  | n + 1, v => UInt8.ofNat (v % 256) :: bytes n (v / 256)

/-- The number that bytes stand for. -/
def value : List UInt8 → Nat
  | [] => 0
  | b :: bs => b.toNat + 256 * value bs

theorem length_bytes (n v : Nat) : (bytes n v).length = n := by
  induction n generalizing v with
  | zero => rfl
  | succ n ih => simp [bytes, ih]

/-- Writing gives back the bytes read. -/
theorem bytes_value (bs : List UInt8) : bytes bs.length (value bs) = bs := by
  induction bs with
  | nil => rfl
  | cons b bs ih =>
    have hb := b.toNat_lt
    have hmod : (b.toNat + 256 * value bs) % 256 = b.toNat := by omega
    have hdiv : (b.toNat + 256 * value bs) / 256 = value bs := by omega
    simp only [List.length_cons, bytes, value, hmod, hdiv, ih, UInt8.ofNat_toNat]

end DeviceGen.LittleEndian
