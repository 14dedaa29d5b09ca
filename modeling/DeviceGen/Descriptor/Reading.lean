/-
What the bytes of a message say, before it is merged into a record.

Fields may stand in any order, may be split over several occurrences, and may be
repeated where only one value is kept.  A reading keeps every occurrence of a declared
field, in the order of the bytes.  Merging a reading into a record is a separate, total
step: a later value replaces an earlier one, a later message is merged into an earlier
one, and the members of a repeated field are collected in order.

Because the two steps are apart, the reading of two byte strings one after the other is
the one reading followed by the other.
-/
import DeviceGen.Descriptor.Record

namespace DeviceGen.Descriptor

open DeviceGen.Wire (Scalar)

/-- What the occurrences of a field are made of. -/
inductive Element where
  | scalar (scalar : Scalar)
  | message (kind : Kind)

/-- The element type of a field. -/
abbrev FieldType.element : FieldType → Element
  | .optional s => .scalar s
  | .required s => .scalar s
  | .list s _ => .scalar s
  | .message k => .message k
  | .messages k => .message k

/-- What a reading is about: one occurrence of a field, or the fields of a table. -/
inductive Extent where
  | occurrence (element : Element)
  | fields (table : List Field)

/-- The occurrences that were read, in the order of the bytes. -/
inductive Reading : Extent → Type where
  /-- Values under one key; more than one only if they are packed. -/
  | scalars {s : Scalar} (values : List s.Carrier) : Reading (.occurrence (.scalar s))
  /-- A message, by the reading of its fields. -/
  | message {k : Kind} (contents : Reading (.fields k.fields)) :
      Reading (.occurrence (.message k))
  | done {table : List Field} : Reading (.fields table)
  | next {f : Field} {table : List Field} (member : Member f table)
      (content : Reading (.occurrence f.type.element)) (rest : Reading (.fields table)) :
      Reading (.fields table)

/-- One occurrence of a declared field. -/
structure Occurrence (table : List Field) where
  field : Field
  member : Member field table
  content : Reading (.occurrence field.type.element)

/-- What reading an extent does to a record: further values for a slot, or a change of a
message. -/
abbrev Change : Extent → Type
  | .occurrence (.scalar s) => List s.Carrier
  | .occurrence (.message k) => Record k → Record k
  | .fields table => Fields table → Fields table

/-- The effect of one occurrence on the slot of its field. -/
def Slot.absorb : {type : FieldType} → Change (.occurrence type.element) → Slot type → Slot type
  | .optional _, values, .optional value => .optional (values.getLast? <|> value)
  | .required _, values, .required value => .required (values.getLast?.getD value)
  | .list _ _, values, .list earlier => .list (earlier ++ values)
  | .message k, change, .absent => .present (change (Fields.blank k.fields))
  | .message _, change, .present r => .present (change r)
  | .messages k, change, slot => slot.append (change (Fields.blank k.fields))

namespace Reading

/-- The reading of occurrences one after the other. -/
def ofList {table : List Field} : List (Occurrence table) → Reading (.fields table)
  | [] => .done
  | o :: os => .next o.member o.content (ofList os)

/-- The effect of a reading: that of its occurrences, in order. -/
def change : {extent : Extent} → Reading extent → Change extent
  | _, .scalars values => values
  | _, .message contents => contents.change
  | _, .done => id
  | _, .next member content rest => fun r =>
      rest.change (Fields.modify (Slot.absorb content.change) member r)

/-- The record that a whole message says. -/
def record {table : List Field} (reading : Reading (.fields table)) : Fields table :=
  reading.change (Fields.blank table)

/-- How many messages deep a reading is nested. -/
def depth : {extent : Extent} → Reading extent → Nat
  | _, .scalars _ => 0
  | _, .message contents => contents.depth + 1
  | _, .done => 0
  | _, .next _ content rest => max content.depth rest.depth

end Reading

end DeviceGen.Descriptor
