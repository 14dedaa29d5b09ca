/-
What a generator looks at in the schema messages.

Records carry everything that was in the bytes; a generator asks for a handful of their
fields.  Each question is a function here, so that nothing else depends on the position
of a field in its table.  A text or number that is not there reads as empty or zero.
-/
import DeviceGen.Descriptor.Record

namespace DeviceGen.Descriptor

/-- A version of the schema compiler. -/
abbrev Version := Record .version

namespace Version

/-- The first component, 0 if not given. -/
def major : Version → Int32
  | .field major _ => major.value?.getD 0

/-- The second component, 0 if not given. -/
def minor : Version → Int32
  | .field _ (.field minor _) => minor.value?.getD 0

/-- The third component, 0 if not given. -/
def patch : Version → Int32
  | .field _ (.field _ (.field patch _)) => patch.value?.getD 0

end Version

/-- A named number of an enumeration. -/
abbrev EnumValueDescriptor := Record .enumValue

namespace EnumValueDescriptor

/-- The name of the number. -/
def label : EnumValueDescriptor → String
  | .field name _ => name.value?.getD ""

/-- The number. -/
def number : EnumValueDescriptor → Int32
  | .field _ (.field number _) => number.value?.getD 0

end EnumValueDescriptor

/-- An enumeration. -/
abbrev EnumDescriptor := Record .enumeration

namespace EnumDescriptor

/-- The name without package or enclosing messages. -/
def name : EnumDescriptor → String
  | .field name _ => name.value?.getD ""

/-- The named numbers in declared order. -/
def values : EnumDescriptor → List EnumValueDescriptor
  | .field _ (.field values _) => values.records

end EnumDescriptor

/-- A field of a message. -/
abbrev FieldDescriptor := Record .field

namespace FieldDescriptor

/-- The name of the field. -/
def name : FieldDescriptor → String
  | .field name _ => name.value?.getD ""

/-- The number of the field. -/
def number : FieldDescriptor → Int32
  | .field _ (.field _ (.field number _)) => number.value?.getD 0

/-- The code that says whether the field is repeated. -/
def label? : FieldDescriptor → Option Int32
  | .field _ (.field _ (.field _ (.field label _))) => label.value?

/-- The code of the field's type. -/
def type? : FieldDescriptor → Option Int32
  | .field _ (.field _ (.field _ (.field _ (.field type _)))) => type.value?

/-- The full name of the message or enumeration that the type refers to. -/
def typeName : FieldDescriptor → String
  | .field _ (.field _ (.field _ (.field _ (.field _ (.field typeName _))))) =>
    typeName.value?.getD ""

end FieldDescriptor

/-- A message and what is declared inside it. -/
abbrev MessageDescriptor := Record .message

namespace MessageDescriptor

/-- The name without package or enclosing messages. -/
def name : MessageDescriptor → String
  | .field name _ => name.value?.getD ""

/-- The fields in declared order. -/
def fields : MessageDescriptor → List FieldDescriptor
  | .field _ (.field fields _) => fields.records

/-- The messages declared inside. -/
def nested : MessageDescriptor → List MessageDescriptor
  | .field _ (.field _ (.field nested _)) => nested.records

/-- The enumerations declared inside. -/
def enums : MessageDescriptor → List EnumDescriptor
  | .field _ (.field _ (.field _ (.field enums _))) => enums.records

/-- A message declared inside another is nested less deep. -/
theorem depth_lt_of_mem_nested {inner : MessageDescriptor} :
    {m : MessageDescriptor} → inner ∈ m.nested → inner.depth < m.depth
  | .field _ (.field _ (.field nested _)), h => by
    have := Data.depth_lt_of_mem (s := nested) h
    simp only [Data.depth]
    omega

end MessageDescriptor

/-- A schema file. -/
abbrev FileDescriptor := Record .file

namespace FileDescriptor

/-- The path of the file. -/
def name : FileDescriptor → String
  | .field name _ => name.value?.getD ""

/-- The package of the file. -/
def package? : FileDescriptor → Option String
  | .field _ (.field package _) => package.value?

/-- The messages of the file in declared order. -/
def messages : FileDescriptor → List MessageDescriptor
  | .field _ (.field _ (.field _ (.field messages _))) => messages.records

/-- The enumerations that no message encloses. -/
def enums : FileDescriptor → List EnumDescriptor
  | .field _ (.field _ (.field _ (.field _ (.field enums _)))) => enums.records

end FileDescriptor

/-- A set of schema files that refer to nothing outside the set. -/
abbrev FileSet := Record .fileSet

/-- The files of a set. -/
def FileSet.files : FileSet → List FileDescriptor
  | .field files _ => files.records

/-- A request to generate code. -/
abbrev Request := Record .request

namespace Request

/-- A request for the files named, with nothing said about the compiler. -/
def make (selected : List String) (parameter : Option String) (files : List FileDescriptor) :
    Request :=
  .field (.list selected) (.field (.optional parameter) (.field .absent
    (.field (Slot.ofRecords files) .empty)))

/-- The names of the files to generate code for. -/
def selected : Request → List String
  | .field selected _ => selected.values

/-- The parameter of the generator. -/
def parameter : Request → Option String
  | .field _ (.field parameter _) => parameter.value?

/-- The version of the compiler that asks. -/
def version? : Request → Option Version
  | .field _ (.field _ (.field version _)) => version.record?

/-- All schema files, also those that are only referred to. -/
def files : Request → List FileDescriptor
  | .field _ (.field _ (.field _ (.field files _))) => files.records

end Request

/-- A generated file inside a response. -/
abbrev GeneratedFileRecord := Record .generatedFile

namespace GeneratedFileRecord

/-- A file with a name and a content. -/
def make (name content : String) : GeneratedFileRecord :=
  .field (.optional (some name)) (.field (.optional none) (.field (.optional (some content))
    (.field .absent .empty)))

/-- The name of the file. -/
def name : GeneratedFileRecord → String
  | .field name _ => name.value?.getD ""

/-- The content of the file. -/
def content : GeneratedFileRecord → String
  | .field _ (.field _ (.field content _)) => content.value?.getD ""

end GeneratedFileRecord

/-- A response to a request. -/
abbrev Response := Record .response

namespace Response

/-- A response without an error. -/
def make (features : UInt64) (files : List GeneratedFileRecord) : Response :=
  .field (.optional none) (.field (.optional (some features))
    (.field (Slot.ofRecords files) .empty))

/-- The files of a response. -/
def files : Response → List GeneratedFileRecord
  | .field _ (.field _ (.field files _)) => files.records

end Response

end DeviceGen.Descriptor
