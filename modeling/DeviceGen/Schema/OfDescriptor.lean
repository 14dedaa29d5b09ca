/-
The model that a request describes.

The full name of an enumeration is its own name after those of the messages around it
and of the package, with a dot before each of them.  The enumerations of a file are
listed with those that no message encloses first, and then message by message, a
message's own before those of the messages inside it.
-/
import DeviceGen.Descriptor.Parts
import DeviceGen.Schema.Basic

namespace DeviceGen.Schema

open DeviceGen.Descriptor

/-- The code of repeated fields. -/
def repeatedLabel : Int32 := 3

/-- The type that a type code stands for. -/
def ValueType.ofCode (typeName : String) (code : Int32) : ValueType :=
  match code.toInt with
  | 1 => double
  | 2 => float
  | 3 | 16 | 18 => int64
  | 4 | 6 => uint64
  | 5 | 15 | 17 => int32
  | 7 | 13 => uint32
  | 8 => bool
  | 11 => message
  | 14 => enumeration typeName
  | _ => other

/-- The type of a field; a repeated field has no single value. -/
def ValueType.ofDescriptor (field : FieldDescriptor) : ValueType :=
  if field.label? = some repeatedLabel then other
  else (field.type?.map (ofCode field.typeName)).getD other

/-- A field as its descriptor declares it. -/
def Field.ofDescriptor (field : FieldDescriptor) : Field where
  name := field.name
  number := field.number
  type := ValueType.ofDescriptor field

/-- A message as its descriptor declares it. -/
def Message.ofDescriptor (message : MessageDescriptor) : Message where
  name := message.name
  fields := message.fields.map Field.ofDescriptor

/-- The full name of something declared in a scope. -/
def fullName (scope name : String) : String := scope ++ "." ++ name

/-- An enumeration declared in a scope. -/
def Enumeration.ofDescriptor (scope : String) (e : EnumDescriptor) : Enumeration where
  name := fullName scope e.name
  values := e.values.map fun v => ⟨v.label, v.number⟩

/-- The enumerations inside a message and inside the messages in it. -/
def nestedEnums (scope : String) (message : MessageDescriptor) : List Enumeration :=
  let inner := fullName scope message.name
  message.enums.map (Enumeration.ofDescriptor inner)
    ++ message.nested.attach.flatMap fun ⟨m, _⟩ => nestedEnums inner m
termination_by message.depth
decreasing_by exact MessageDescriptor.depth_lt_of_mem_nested ‹_›

/-- The scope of a file: nothing without a package, else the package after a dot. -/
def fileScope (file : FileDescriptor) : String :=
  match file.package? with
  | none | some "" => ""
  | some package => "." ++ package

/-- All enumerations of a file. -/
def enumsOf (file : FileDescriptor) : List Enumeration :=
  file.enums.map (Enumeration.ofDescriptor (fileScope file))
    ++ file.messages.flatMap (nestedEnums (fileScope file))

/-- A file as its descriptor declares it. -/
def File.ofDescriptor (file : FileDescriptor) : File where
  name := file.name
  package := file.package?
  messages := file.messages.map Message.ofDescriptor
  enums := enumsOf file

/-- The model that a request describes. -/
def Model.ofRequest (request : Request) : Model where
  files := request.files.map File.ofDescriptor
  selected := request.selected
  parameter := request.parameter

end DeviceGen.Schema
