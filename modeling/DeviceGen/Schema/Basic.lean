/-
Schemas of device messages.

A model is what a request says about messages: its files, the names of those to
generate code for, and the parameter.  Enumerations stand in one list for each file,
under their full names, wherever they were declared.
-/
import DeviceGen.Text.Segment

namespace DeviceGen.Schema

/-- What values a field has, as far as a generator can tell them apart. -/
inductive ValueType where
  | int32
  | int64
  | uint32
  | uint64
  | float
  | double
  | bool
  /-- One of the numbers of an enumeration, which is given by its full name. -/
  | enumeration (name : String)
  | message
  /-- Repeated values, texts, byte strings, groups, and types that nobody knows. -/
  | other
  deriving DecidableEq, Repr

/-- A named number of an enumeration. -/
structure EnumValue where
  label : String
  number : Int32
  deriving DecidableEq, Repr

/-- An enumeration by its full name, which starts with a dot. -/
structure Enumeration where
  name : String
  values : List EnumValue
  deriving DecidableEq, Repr

/-- The name without package and enclosing messages. -/
def Enumeration.shortName (e : Enumeration) : String := Text.afterLast '.' e.name

/-- A field of a message. -/
structure Field where
  name : String
  number : Int32
  type : ValueType
  deriving DecidableEq, Repr

/-- A message that no other message encloses. -/
structure Message where
  name : String
  fields : List Field
  deriving DecidableEq, Repr

/-- A schema file. -/
structure File where
  name : String
  package : Option String
  messages : List Message
  enums : List Enumeration
  deriving DecidableEq, Repr

/-- The path of a file without the ending of schema files. -/
def File.stem (file : File) : String := Text.beforeEnding ".proto" file.name

/-- Everything a request says. -/
structure Model where
  files : List File
  selected : List String
  parameter : Option String
  deriving DecidableEq, Repr

namespace Model

/-- The first file with a name. -/
def file? (model : Model) (name : String) : Option File :=
  model.files.find? (·.name = name)

end Model

end DeviceGen.Schema
