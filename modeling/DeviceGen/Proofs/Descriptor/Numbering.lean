/-
Schemas up to the numbers of their fields.

`unnumbered` takes the numbers of all fields of messages out of a record, at any depth.  Of a
schema this leaves everything else that a model is made of: names, types and enumerations, and
the order of them all (`ofDescriptor_unnumbered`).
-/
import DeviceGen.Proofs.Schema.Declared

namespace DeviceGen

/-! ### Descriptors -/

namespace Descriptor

/-- A field of a message without its number. -/
def FieldDescriptor.withoutNumber : FieldDescriptor → FieldDescriptor
  | .field name (.field extendee (.field _ rest)) =>
    .field name (.field extendee (.field (.optional none) rest))

/-- A record of a kind, without its number if it is a field of a message. -/
def Kind.withoutNumber : (kind : Kind) → Record kind → Record kind
  | .field => FieldDescriptor.withoutNumber
  | _ => id

/-- A value without the numbers of the fields that are declared inside. -/
def Data.unnumberedInside : {shape : Shape} → Data shape → Data shape
  | _, .optional value => .optional value
  | _, .required value => .required value
  | _, .list values => .list values
  | _, .absent => .absent
  | _, @Data.present k r => .present (k.withoutNumber r.unnumberedInside)
  | _, .nil => .nil
  | _, @Data.cons k r rest => .cons (k.withoutNumber r.unnumberedInside) rest.unnumberedInside
  | _, .empty => .empty
  | _, .field slot rest => .field slot.unnumberedInside rest.unnumberedInside

/-- A record without the numbers of fields. -/
def unnumbered {kind : Kind} (r : Record kind) : Record kind :=
  kind.withoutNumber (Data.unnumberedInside r)

/-- Repeated messages are without numbers if each of them is. -/
theorem records_unnumberedInside {k : Kind} :
    ∀ slot : Slot (.messages k), slot.unnumberedInside.records = slot.records.map unnumbered
  | .nil => rfl
  | .cons r rest => by
      rw [Data.unnumberedInside, Data.records_cons, Data.records_cons, List.map_cons,
        records_unnumberedInside rest]
      rfl

namespace FieldDescriptor

theorem name_unnumbered : ∀ field : FieldDescriptor, name (unnumbered field) = field.name
  | .field (.optional _) (.field _ (.field _ _)) => rfl

theorem number_unnumbered : ∀ field : FieldDescriptor, number (unnumbered field) = 0
  | .field _ (.field _ (.field _ _)) => rfl

theorem label?_unnumbered : ∀ field : FieldDescriptor, label? (unnumbered field) = field.label?
  | .field _ (.field _ (.field _ (.field (.optional _) _))) => rfl

theorem type?_unnumbered : ∀ field : FieldDescriptor, type? (unnumbered field) = field.type?
  | .field _ (.field _ (.field _ (.field _ (.field (.optional _) _)))) => rfl

theorem typeName_unnumbered :
    ∀ field : FieldDescriptor, typeName (unnumbered field) = field.typeName
  | .field _ (.field _ (.field _ (.field _ (.field _ (.field (.optional _) _))))) => rfl

end FieldDescriptor

theorem EnumValueDescriptor.label_unnumbered :
    ∀ value : EnumValueDescriptor, label (unnumbered value) = value.label
  | .field (.optional _) _ => rfl

theorem EnumValueDescriptor.number_unnumbered :
    ∀ value : EnumValueDescriptor, number (unnumbered value) = value.number
  | .field _ (.field (.optional _) _) => rfl

theorem EnumDescriptor.name_unnumbered : ∀ e : EnumDescriptor, name (unnumbered e) = e.name
  | .field (.optional _) _ => rfl

theorem EnumDescriptor.values_unnumbered :
    ∀ e : EnumDescriptor, values (unnumbered e) = e.values.map unnumbered
  | .field _ (.field values _) => records_unnumberedInside values

namespace MessageDescriptor

theorem name_unnumbered : ∀ m : MessageDescriptor, name (unnumbered m) = m.name
  | .field (.optional _) _ => rfl

theorem fields_unnumbered :
    ∀ m : MessageDescriptor, fields (unnumbered m) = m.fields.map unnumbered
  | .field _ (.field fields _) => records_unnumberedInside fields

theorem nested_unnumbered :
    ∀ m : MessageDescriptor, nested (unnumbered m) = m.nested.map unnumbered
  | .field _ (.field _ (.field nested _)) => records_unnumberedInside nested

theorem enums_unnumbered :
    ∀ m : MessageDescriptor, enums (unnumbered m) = m.enums.map unnumbered
  | .field _ (.field _ (.field _ (.field enums _))) => records_unnumberedInside enums

end MessageDescriptor

namespace FileDescriptor

theorem name_unnumbered : ∀ file : FileDescriptor, name (unnumbered file) = file.name
  | .field (.optional _) _ => rfl

theorem package?_unnumbered :
    ∀ file : FileDescriptor, package? (unnumbered file) = file.package?
  | .field _ (.field (.optional _) _) => rfl

theorem messages_unnumbered :
    ∀ file : FileDescriptor, messages (unnumbered file) = file.messages.map unnumbered
  | .field _ (.field _ (.field _ (.field messages _))) => records_unnumberedInside messages

theorem enums_unnumbered :
    ∀ file : FileDescriptor, enums (unnumbered file) = file.enums.map unnumbered
  | .field _ (.field _ (.field _ (.field _ (.field enums _)))) => records_unnumberedInside enums

end FileDescriptor

end Descriptor

/-! ### Models -/

namespace Schema

open Descriptor

/-- A field as if it had no number. -/
def Field.unnumbered (field : Field) : Field := { field with number := 0 }

/-- A message whose fields have no numbers. -/
def Message.unnumbered (message : Message) : Message :=
  { message with fields := message.fields.map Field.unnumbered }

/-- A file in whose messages fields have no numbers. -/
def File.unnumbered (file : File) : File :=
  { file with messages := file.messages.map Message.unnumbered }

theorem Field.ofDescriptor_unnumbered (field : FieldDescriptor) :
    Field.ofDescriptor (Descriptor.unnumbered field) = (Field.ofDescriptor field).unnumbered := by
  unfold Field.ofDescriptor Field.unnumbered ValueType.ofDescriptor
  rw [field.name_unnumbered, field.number_unnumbered, field.label?_unnumbered,
    field.type?_unnumbered, field.typeName_unnumbered]

theorem Message.ofDescriptor_unnumbered (m : MessageDescriptor) :
    Message.ofDescriptor (Descriptor.unnumbered m) = (Message.ofDescriptor m).unnumbered := by
  unfold Message.ofDescriptor Message.unnumbered
  rw [m.name_unnumbered, m.fields_unnumbered, List.map_map, List.map_map]
  exact congrArg (Message.mk m.name) (List.map_congr_left fun field _ =>
    Field.ofDescriptor_unnumbered field)

/-- The numbers in an enumeration are not those of fields. -/
theorem Enumeration.ofDescriptor_unnumbered (scope : String) (e : EnumDescriptor) :
    Enumeration.ofDescriptor scope (Descriptor.unnumbered e)
      = Enumeration.ofDescriptor scope e := by
  unfold Enumeration.ofDescriptor
  rw [e.name_unnumbered, e.values_unnumbered, List.map_map]
  refine congrArg (Enumeration.mk _) (List.map_congr_left fun value _ => ?_)
  rw [Function.comp, EnumValueDescriptor.label_unnumbered, EnumValueDescriptor.number_unnumbered]

theorem map_ofDescriptor_unnumbered (scope : String) (enums : List EnumDescriptor) :
    (enums.map Descriptor.unnumbered).map (Enumeration.ofDescriptor scope)
      = enums.map (Enumeration.ofDescriptor scope) := by
  rw [List.map_map]
  exact List.map_congr_left fun e _ => Enumeration.ofDescriptor_unnumbered scope e

theorem nestedEnums_unnumbered (scope : String) (m : MessageDescriptor) :
    nestedEnums scope (Descriptor.unnumbered m) = nestedEnums scope m := by
  -- the induction is on the nesting of messages
  induction scope, m using nestedEnums.induct with
  | case1 scope m inner ih =>
      rw [nestedEnums_eq, nestedEnums_eq, m.name_unnumbered, m.enums_unnumbered,
        m.nested_unnumbered, map_ofDescriptor_unnumbered, List.flatMap_map]
      rw [List.flatMap_def, List.flatMap_def, List.map_congr_left fun n hn => ih n hn]

theorem enumsOf_unnumbered (file : FileDescriptor) :
    enumsOf (Descriptor.unnumbered file) = enumsOf file := by
  unfold enumsOf fileScope
  rw [file.package?_unnumbered, file.enums_unnumbered, file.messages_unnumbered,
    map_ofDescriptor_unnumbered, List.flatMap_map]
  simp only [nestedEnums_unnumbered]

/-- **A model keeps the numbers of fields apart from everything else.** -/
theorem File.ofDescriptor_unnumbered (file : FileDescriptor) :
    File.ofDescriptor (Descriptor.unnumbered file) = (File.ofDescriptor file).unnumbered := by
  unfold File.ofDescriptor File.unnumbered
  rw [file.name_unnumbered, file.package?_unnumbered, file.messages_unnumbered,
    enumsOf_unnumbered, List.map_map, List.map_map]
  simp only [Function.comp_def, Message.ofDescriptor_unnumbered]

end Schema

end DeviceGen
