/-
Writing messages as bytes.

There is one written form of a record: fields stand in the order of their table, a slot
that holds nothing is left out, and lengths and numbers are written as short as they
can be.
-/
import DeviceGen.Descriptor.Record

namespace DeviceGen.Descriptor

open DeviceGen.Wire

/-- The parts of a written form: a slot is written under the number of its field. -/
abbrev Written : Shape → Type
  | .slot _ => (number : Nat) → List UInt8
  | .record _ => List UInt8

/-- A value after its key. -/
def writeScalar (s : Scalar) (number : Nat) (value : s.Carrier) : List UInt8 :=
  Key.write ⟨number, s.wireType⟩ ++ s.write value

/-- Bytes after their key and their number. -/
def writeDelimited (number : Nat) (bytes : List UInt8) : List UInt8 :=
  Key.write ⟨number, .delimited⟩ ++ Scalar.delimited bytes

/-- The written form of a value. -/
def Data.write : {shape : Shape} → Data shape → Written shape
  | _, @Data.optional s value => fun number => (value.map (writeScalar s number)).getD []
  | _, @Data.required s value => fun number => writeScalar s number value
  | _, @Data.list s true values => fun number =>
      if values.isEmpty then [] else writeDelimited number (values.flatMap s.write)
  | _, @Data.list s false values => fun number =>
      values.flatMap (writeScalar s number)
  | _, .absent => fun _ => []
  | _, .present r => fun number => writeDelimited number r.write
  | _, .nil => fun _ => []
  | _, .cons r rest => fun number => writeDelimited number r.write ++ rest.write number
  | _, .empty => []
  | _, @Data.field f _ slot rest => slot.write f.number ++ rest.write

/-- The bytes of a message. -/
def encode {kind : Kind} (r : Record kind) : List UInt8 := r.write

end DeviceGen.Descriptor
