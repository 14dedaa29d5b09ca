/-
The document that shows a model.

Every part of a model appears, in the order of its declaration, so that the document
can take the place of the model for a reader.
-/
import DeviceGen.Schema.Basic
import DeviceGen.Text.Json

namespace DeviceGen.Schema

open DeviceGen.Text (Json)

/-- A text, or nothing. -/
def optionalText (text : Option String) : Json := (text.map Json.text).getD .null

/-- The name of a type; an enumeration shows the name it goes by. -/
def ValueType.toJson : ValueType → Json
  | int32 => .text "Int32"
  | int64 => .text "Int64"
  | uint32 => .text "UInt32"
  | uint64 => .text "UInt64"
  | float => .text "Float"
  | double => .text "Double"
  | bool => .text "Bool"
  | enumeration name => .object [("Enum", .object [("type_name", .text name)])]
  | message => .text "Message"
  | other => .text "Other"

/-- A named number. -/
def EnumValue.toJson (v : EnumValue) : Json :=
  .object [("label", .text v.label), ("number", .number v.number.toInt)]

/-- An enumeration. -/
def Enumeration.toJson (e : Enumeration) : Json :=
  .object [("name", .text e.name), ("values", .array (e.values.map EnumValue.toJson))]

/-- A field. -/
def Field.toJson (field : Field) : Json :=
  .object [("name", .text field.name), ("number", .number field.number.toInt),
    ("wire", field.type.toJson)]

/-- A message. -/
def Message.toJson (message : Message) : Json :=
  .object [("name", .text message.name), ("fields", .array (message.fields.map Field.toJson))]

/-- A file. -/
def File.toJson (file : File) : Json :=
  .object [("name", .text file.name), ("package", optionalText file.package),
    ("messages", .array (file.messages.map Message.toJson)),
    ("enums", .array (file.enums.map Enumeration.toJson))]

/-- A whole model. -/
def Model.toJson (model : Model) : Json :=
  .object [("files", .array (model.files.map File.toJson)),
    ("files_to_generate", .array (model.selected.map Json.text)),
    ("parameter", optionalText model.parameter)]

/-- The printed document of a model. -/
def Model.dump (model : Model) : String := model.toJson.print

end DeviceGen.Schema
