/-
Why bytes are refused.

A failure is a cause together with the way to it: the declared fields that were being
read when the cause was met, innermost first.  Causes are values; their wording stands
in one function, so that a statement about refusals never mentions text.
-/

namespace DeviceGen.Wire

/-- How the bytes after a key are delimited. -/
inductive WireType where
  | varint
  | fixed64
  | delimited
  | groupStart
  | groupEnd
  | fixed32
  deriving DecidableEq, Repr

namespace WireType

/-- The three-bit code a wire type has in a key. -/
def code : WireType → Nat
  | varint => 0
  | fixed64 => 1
  | delimited => 2
  | groupStart => 3
  | groupEnd => 4
  | fixed32 => 5

/-- The wire type of a code; the codes 6 and 7 have none. -/
def ofCode? : Nat → Option WireType
  | 0 => some varint
  | 1 => some fixed64
  | 2 => some delimited
  | 3 => some groupStart
  | 4 => some groupEnd
  | 5 => some fixed32
  | _ => none

/-- The name a wire type has in messages. -/
def name : WireType → String
  | varint => "Varint"
  | fixed64 => "SixtyFourBit"
  | delimited => "LengthDelimited"
  | groupStart => "StartGroup"
  | groupEnd => "EndGroup"
  | fixed32 => "ThirtyTwoBit"

theorem ofCode?_code (w : WireType) : ofCode? w.code = some w := by
  cases w <;> rfl

theorem code_lt (w : WireType) : w.code < 6 := by
  cases w <;> decide

end WireType

/-- What is wrong with the bytes. -/
inductive Cause where
  /-- A variable-length integer does not end, or does not fit in 64 bits. -/
  | invalidVarint
  /-- A key does not fit in 32 bits. -/
  | invalidKey (key : Nat)
  /-- A key carries one of the two codes that are no wire type. -/
  | unknownWireType (code : Nat)
  /-- A key carries the field number zero. -/
  | zeroNumber
  /-- A declared field is delimited in a way its type does not allow. -/
  | wireTypeMismatch (found expected : WireType)
  /-- More bytes are announced than are left. -/
  | underflow
  /-- A text is not UTF-8. -/
  | notUtf8
  /-- Messages or groups are nested deeper than allowed. -/
  | tooDeep
  /-- The fields of a message do not end where its length says. -/
  | overrun
  /-- A group ends that is not the innermost open one. -/
  | strayGroupEnd
  deriving DecidableEq, Repr

/-- The wording of a cause. -/
def Cause.text : Cause → String
  | invalidVarint => "invalid varint"
  | invalidKey key => "invalid key value: " ++ toString key
  | unknownWireType code => "invalid wire type value: " ++ toString code
  | zeroNumber => "invalid tag value: 0"
  | wireTypeMismatch found expected =>
      "invalid wire type: " ++ found.name ++ " (expected " ++ expected.name ++ ")"
  | underflow => "buffer underflow"
  | notUtf8 => "invalid string value: data is not UTF-8 encoded"
  | tooDeep => "recursion limit reached"
  | overrun => "delimited length exceeded"
  | strayGroupEnd => "unexpected end group tag"

/-- A declared field of a kind of message, as messages name it. -/
structure Place where
  message : String
  field : String
  deriving DecidableEq, Repr

/-- A cause and the fields inside which it was met, innermost first. -/
structure Failure where
  path : List Place
  cause : Cause
  deriving DecidableEq, Repr

namespace Failure

/-- A failure that no declared field encloses yet. -/
def of (cause : Cause) : Failure := ⟨[], cause⟩

/-- The same failure seen from outside the field at `place`. -/
def inside (place : Place) (f : Failure) : Failure := { f with path := f.path ++ [place] }

/-- The places from the innermost outwards, then the cause. -/
def message (f : Failure) : String :=
  "failed to decode Protobuf message: "
    ++ String.join (f.path.map fun p => p.message ++ "." ++ p.field ++ ": ")
    ++ f.cause.text

end Failure

end DeviceGen.Wire
