/-
Reading messages from bytes.

The table of a kind decides how each of its fields is read; a field that is not in the
table is stepped over.  Messages may be nested `nestingLimit` deep.  The reader of the
messages inside a field is handed to the functions that read the field, so the only
recursion is the one on the nesting budget.
-/
import DeviceGen.Descriptor.Reading
import DeviceGen.Wire.Delimited

namespace DeviceGen.Descriptor

open DeviceGen.Wire

/-- How many levels of messages and groups may be open inside the outermost message. -/
def nestingLimit : Nat := 100

/-- Insists on a wire type. -/
def expect (expected found : WireType) : Reader Unit :=
  if found = expected then pure () else Reader.fail (.wireTypeMismatch found expected)

/-- Reads the messages of every kind. -/
abbrev MessageReader := (k : Kind) → Reader (Reading (.fields k.fields))

/-- Reads an occurrence of a field with one value under its key. -/
def readScalar (s : Scalar) (found : WireType) : Reader (Reading (.occurrence (.scalar s))) := do
  expect s.wireType found
  return .scalars [← s.read]

/-- Reads an occurrence of a field by its type, after the key. -/
def readOccurrence (messages : MessageReader) :
    (type : FieldType) → (found : WireType) → Reader (Reading (.occurrence type.element))
  | .optional s, found => readScalar s found
  | .required s, found => readScalar s found
  | .list s _, found =>
    if s.packable ∧ found = .delimited then return .scalars (← Reader.delimited s.read)
    else readScalar s found
  | .message k, found => do
    expect .delimited found
    return .message (← messages k)
  | .messages k, found => do
    expect .delimited found
    return .message (← messages k)

/-- Reads the next field of a message; one that is not declared says nothing. -/
def readField (messages : MessageReader) (budget : Nat) (kind : Kind) :
    Reader (Option (Occurrence kind.fields)) := do
  let key ← Key.read
  match Member.find? key.number kind.fields with
  | some ⟨field, member⟩ =>
    let content ← Reader.inside (kind.place field) (readOccurrence messages field.type key.wireType)
    return some ⟨field, member, content⟩
  | none =>
    skip budget key
    return none

/-- The declared fields among those read. -/
def declared {kind : Kind} (fields : List (Option (Occurrence kind.fields))) :
    Reading (.fields kind.fields) :=
  Reading.ofList (fields.filterMap id)

/-- Reads a message after its length, with `budget` levels of nesting left. -/
def readMessage : (budget : Nat) → MessageReader
  | 0, _ => Reader.fail .tooDeep
  | budget + 1, k => declared <$> Reader.delimited (readField (readMessage budget) budget k)

/-- Reads fields to the end of the input. -/
def readAll (kind : Kind) : Reader (Reading (.fields kind.fields)) :=
  declared <$> Reader.toEnd (readField (readMessage nestingLimit) nestingLimit kind)

/-- What all the bytes say, as a message of a kind. -/
def reading (kind : Kind) (bytes : List UInt8) : Except Failure (Reading (.fields kind.fields)) :=
  (readAll kind (Input.ofBytes bytes)).map Prod.fst

/-- The message of a kind that all the bytes say. -/
def decode (kind : Kind) (bytes : List UInt8) : Except Failure (Record kind) :=
  (reading kind bytes).map Reading.record

end DeviceGen.Descriptor
