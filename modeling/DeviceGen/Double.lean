/-
Double-precision numbers by their bits.

Nothing here computes with reals.  They are carried from bytes to bytes, and a default
value is written out in decimal, so the bits themselves are the value: two doubles are
equal iff their bits are, which keeps the sign of zero and the payload of a NaN.
-/

namespace DeviceGen

/-- A double-precision number, given by its 64 bits. -/
structure Double where
  bits : UInt64
  deriving DecidableEq, Repr

/-- The positive zero. -/
def Double.zero : Double := ⟨0⟩

end DeviceGen
