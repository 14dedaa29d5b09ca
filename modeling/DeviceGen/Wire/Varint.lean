/-
Variable-length integers: seven bits a byte, the low ones first, and the high bit of
every byte but the last set.

Writing is minimal.  Reading accepts padded forms as well, up to ten bytes; as ten
times seven bits are more than 64, the tenth byte may only be 0 or 1.
-/
import DeviceGen.Wire.Input

namespace DeviceGen.Wire.Varint

/-- The shortest form of `n`. -/
def write (n : Nat) : List UInt8 :=
  if n < 128 then [UInt8.ofNat n] else UInt8.ofNat (n % 128 + 128) :: write (n / 128)

/-- Reads an integer of at most `places + 1` bytes, the last of which is below 2 if all
of them are used. -/
def readWithin : (places : Nat) → Reader Nat
  | places, input =>
    match input.next? with
    | none => .error (Failure.of .invalidVarint)
    | some (byte, rest) =>
      if byte.toNat < 128 then
        if places = 0 ∧ 2 ≤ byte.toNat then .error (Failure.of .invalidVarint)
        else .ok (byte.toNat, rest)
      else
        match places with
        | 0 => .error (Failure.of .invalidVarint)
        | places + 1 => do
          let (high, rest) ← readWithin places rest
          return (byte.toNat - 128 + 128 * high, rest)

/-- Reads an integer below 2⁶⁴. -/
def read : Reader Nat := readWithin 9

end DeviceGen.Wire.Varint
