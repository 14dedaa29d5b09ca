/-
Values of the schema messages.

A record has one slot for each field of its kind's table, and what a slot can hold is
fixed by the type of its field: there are no records with a missing required value, two
values for a single field, or a text where a number belongs.  Records and their slots
are one inductive family over shapes, so functions on them are defined, and facts about
them proved, by one structural recursion for all kinds.
-/
import DeviceGen.Descriptor.Kind

namespace DeviceGen.Descriptor

open DeviceGen.Wire (Scalar)

/-- The shapes of values: the slot of a field, or all slots of a table of fields. -/
inductive Shape where
  | slot (type : FieldType)
  | record (table : List Field)

/-- The values of a shape. -/
inductive Data : Shape → Type where
  | optional {s : Scalar} (value : Option s.Carrier) : Data (.slot (.optional s))
  | required {s : Scalar} (value : s.Carrier) : Data (.slot (.required s))
  | list {s : Scalar} {packed : Bool} (values : List s.Carrier) : Data (.slot (.list s packed))
  | absent {k : Kind} : Data (.slot (.message k))
  | present {k : Kind} (record : Data (.record k.fields)) : Data (.slot (.message k))
  | nil {k : Kind} : Data (.slot (.messages k))
  | cons {k : Kind} (record : Data (.record k.fields)) (rest : Data (.slot (.messages k))) :
      Data (.slot (.messages k))
  | empty : Data (.record [])
  | field {f : Field} {table : List Field} (slot : Data (.slot f.type))
      (rest : Data (.record table)) : Data (.record (f :: table))

/-- What a field of a type holds. -/
abbrev Slot (type : FieldType) := Data (.slot type)

/-- One slot for each field of a table. -/
abbrev Fields (table : List Field) := Data (.record table)

/-- A message of a kind. -/
abbrev Record (kind : Kind) := Fields kind.fields

/-- The position of a field in a table. -/
inductive Member (f : Field) : List Field → Type where
  | here {table : List Field} : Member f (f :: table)
  | there {g : Field} {table : List Field} (m : Member f table) : Member f (g :: table)

/-- The field with a number, and its position. -/
def Member.find? (number : Nat) : (table : List Field) → Option ((f : Field) × Member f table)
  | [] => none
  | f :: table =>
    if f.number = number then some ⟨f, .here⟩
    else (find? number table).map fun ⟨g, m⟩ => ⟨g, .there m⟩

/-- What a repeated field consists of; slots of other types have no such parts. -/
abbrev Members : Shape → Type
  | .slot (.messages k) => List (Record k)
  | _ => Unit

/-- The messages of a repeated field, in order. -/
def Data.members : {shape : Shape} → Data shape → Members shape
  | _, .optional _ => ()
  | _, .required _ => ()
  | _, .list _ => ()
  | _, .absent => ()
  | _, .present _ => ()
  | _, .nil => []
  | _, .cons r rest => r :: rest.members
  | _, .empty => ()
  | _, .field _ _ => ()

namespace Slot

/-- What a field holds before anything is read. -/
def blank : (type : FieldType) → Slot type
  | .optional _ => .optional none
  | .required s => .required s.zero
  | .list _ _ => .list []
  | .message _ => .absent
  | .messages _ => .nil

/-- The slot that holds the given messages. -/
def ofRecords {k : Kind} : List (Record k) → Slot (.messages k)
  | [] => .nil
  | r :: rs => .cons r (ofRecords rs)

end Slot

namespace Data

/-- The value of a field that may have one. -/
def value? {s : Scalar} : Slot (.optional s) → Option s.Carrier
  | .optional value => value

/-- The values of a list field. -/
def values {s : Scalar} {packed : Bool} : Slot (.list s packed) → List s.Carrier
  | .list values => values

/-- The message of a field that may have one. -/
def record? {k : Kind} : Slot (.message k) → Option (Record k)
  | .absent => none
  | .present r => some r

/-- The messages of a repeated field. -/
def records {k : Kind} (slot : Slot (.messages k)) : List (Record k) := slot.members

/-- A further message at the end. -/
def append {k : Kind} (slot : Slot (.messages k)) (r : Record k) : Slot (.messages k) :=
  Slot.ofRecords (slot.records ++ [r])

@[simp] theorem records_nil {k : Kind} : records (.nil : Slot (.messages k)) = [] := rfl

@[simp] theorem records_cons {k : Kind} (r : Record k) (rest : Slot (.messages k)) :
    records (.cons r rest) = r :: records rest := rfl

@[simp] theorem records_ofRecords {k : Kind} (rs : List (Record k)) :
    records (Slot.ofRecords rs) = rs := by
  induction rs with
  | nil => rfl
  | cons r rs ih => rw [Slot.ofRecords, records_cons, ih]

@[simp] theorem ofRecords_records {k : Kind} :
    ∀ s : Slot (.messages k), Slot.ofRecords s.records = s
  | .nil => rfl
  | .cons r rest => by rw [records_cons, Slot.ofRecords, ofRecords_records rest]

@[simp] theorem records_append {k : Kind} (s : Slot (.messages k)) (r : Record k) :
    (s.append r).records = s.records ++ [r] :=
  records_ofRecords _

end Data

namespace Fields

/-- The record before anything is read. -/
def blank : (table : List Field) → Fields table
  | [] => .empty
  | f :: table => .field (Slot.blank f.type) (blank table)

/-- The slot at a position. -/
def get {f : Field} : {table : List Field} → Member f table → Fields table → Slot f.type
  | _, .here, .field slot _ => slot
  | _, .there m, .field _ rest => get m rest

/-- Changes the slot at a position. -/
def modify {f : Field} (change : Slot f.type → Slot f.type) :
    {table : List Field} → Member f table → Fields table → Fields table
  | _, .here, .field slot rest => .field (change slot) rest
  | _, .there m, .field slot rest => .field slot (modify change m rest)

end Fields

/-- How many messages deep a value is nested: a record without messages has depth 0. -/
def Data.depth : {shape : Shape} → Data shape → Nat
  | _, .optional _ => 0
  | _, .required _ => 0
  | _, .list _ => 0
  | _, .absent => 0
  | _, .present r => r.depth + 1
  | _, .nil => 0
  | _, .cons r rest => max (r.depth + 1) rest.depth
  | _, .empty => 0
  | _, .field slot rest => max slot.depth rest.depth

/-- A message in a repeated field is less deep than the field. -/
theorem Data.depth_lt_of_mem {k : Kind} {r : Record k} :
    ∀ {s : Slot (.messages k)}, r ∈ s.records → r.depth < s.depth
  | .nil, h => by simp at h
  | .cons first rest, h => by
    simp only [Data.records_cons, List.mem_cons] at h
    simp only [Data.depth]
    rcases h with rfl | h
    · omega
    · have := depth_lt_of_mem (s := rest) h
      omega

end DeviceGen.Descriptor
