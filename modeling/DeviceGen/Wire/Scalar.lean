/-
Values without fields of their own: numbers, truth values, texts and byte strings.

Each scalar type says which Lean type its values have, how they are delimited, and how
they are written and read.  Integers of every width travel as 64-bit variable-length
integers; a negative one is extended to 64 bits first, and only as many bits as the
type has are kept on reading.
-/
import DeviceGen.Double
import DeviceGen.LittleEndian
import DeviceGen.Wire.Key

namespace DeviceGen.Wire

/-- The types of values without fields of their own. -/
inductive Scalar where
  | int32
  | int64
  | uint64
  | bool
  | double
  | text
  | bytes
  deriving DecidableEq, Repr

namespace Scalar

/-- The values of a scalar type. -/
abbrev Carrier : Scalar → Type
  | int32 => Int32
  | int64 => Int64
  | uint64 => UInt64
  | bool => Bool
  | double => Double
  | text => String
  | bytes => List UInt8

/-- What a required field holds that was never read. -/
def zero : (s : Scalar) → s.Carrier
  | int32 => 0
  | int64 => 0
  | uint64 => 0
  | bool => false
  | double => Double.zero
  | text => ""
  | bytes => []

/-- How a value of the type is delimited. -/
def wireType : Scalar → WireType
  | int32 | int64 | uint64 | bool => .varint
  | double => .fixed64
  | text | bytes => .delimited

/-- The 64 bits that stand for an integer. -/
def wrap64 (n : Int) : Nat := (n % 0x10000000000000000).toNat

/-- Bytes after their number. -/
def delimited (bs : List UInt8) : List UInt8 := Varint.write bs.length ++ bs

/-- The UTF-8 bytes of a text. -/
def utf8 (text : String) : List UInt8 := text.toByteArray.data.toList

/-- The text with these UTF-8 bytes, if there is one. -/
def ofUtf8? (bs : List UInt8) : Option String := String.fromUTF8? ⟨bs.toArray⟩

/-- The bytes of a value. -/
def write : (s : Scalar) → s.Carrier → List UInt8
  | int32, n => Varint.write (wrap64 n.toInt)
  | int64, n => Varint.write (wrap64 n.toInt)
  | uint64, n => Varint.write n.toNat
  | bool, b => Varint.write b.toNat
  | double, d => LittleEndian.bytes 8 d.bits.toNat
  | text, s => delimited (utf8 s)
  | bytes, bs => delimited bs

/-- Reads the bytes of a value. -/
def read : (s : Scalar) → Reader s.Carrier
  | int32 => return Int32.ofNat (← Varint.read)
  | int64 => return Int64.ofNat (← Varint.read)
  | uint64 => return UInt64.ofNat (← Varint.read)
  | bool => return (← Varint.read) ≠ 0
  | double => return ⟨UInt64.ofNat (LittleEndian.value (← Reader.take 8))⟩
  | text => do
    match ofUtf8? (← Reader.take (← Varint.read)) with
    | some s => return s
    | none => Reader.fail .notUtf8
  | bytes => do Reader.take (← Varint.read)

/-- Several values may share one key, written one after the other, unless the type
needs a length for each of them. -/
def packable (s : Scalar) : Bool := s.wireType ≠ .delimited

end Scalar

end DeviceGen.Wire
