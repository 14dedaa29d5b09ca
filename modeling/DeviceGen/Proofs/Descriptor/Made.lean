/-
Descriptors made of what a generator looks at.

A descriptor has many fields that no generator asks for.  These are the descriptors in
which such fields are left out, so that a schema can be given by its names, numbers and
types alone.
-/
import DeviceGen.Descriptor.Parts

namespace DeviceGen.Descriptor

/-- A named number of an enumeration. -/
def EnumValueDescriptor.make (label : String) (number : Int32) : EnumValueDescriptor :=
  .field (.optional (some label)) (.field (.optional (some number)) (.field .absent .empty))

/-- An enumeration with its named numbers. -/
def EnumDescriptor.make (name : String) (values : List EnumValueDescriptor) : EnumDescriptor :=
  .field (.optional (some name)) (.field (Slot.ofRecords values) (.field .absent
    (.field .nil (.field (.list []) .empty))))

/-- A field by its number, the code of its type, and the name of the type if it has one. -/
def FieldDescriptor.make (name : String) (number type : Int32) (typeName : Option String) :
    FieldDescriptor :=
  .field (.optional (some name)) (.field (.optional none) (.field (.optional (some number))
    (.field (.optional none) (.field (.optional (some type)) (.field (.optional typeName)
      (.field (.optional none) (.field .absent (.field (.optional none)
        (.field (.optional none) (.field (.optional none) .empty))))))))))

/-- A message with its fields. -/
def MessageDescriptor.make (name : String) (fields : List FieldDescriptor) : MessageDescriptor :=
  .field (.optional (some name)) (.field (Slot.ofRecords fields) (.field .nil (.field .nil
    (.field .nil (.field .nil (.field .absent (.field .nil (.field .nil
      (.field (.list []) .empty)))))))))

/-- A message without fields, and what is declared inside it. -/
def MessageDescriptor.around (name : String) (nested : List MessageDescriptor)
    (enums : List EnumDescriptor) : MessageDescriptor :=
  .field (.optional (some name)) (.field .nil (.field (Slot.ofRecords nested)
    (.field (Slot.ofRecords enums) (.field .nil (.field .nil (.field .absent (.field .nil
      (.field .nil (.field (.list []) .empty)))))))))

/-- A file with its messages and enumerations. -/
def FileDescriptor.make (name : String) (package : Option String)
    (messages : List MessageDescriptor) (enums : List EnumDescriptor) : FileDescriptor :=
  .field (.optional (some name)) (.field (.optional package) (.field (.list [])
    (.field (Slot.ofRecords messages) (.field (Slot.ofRecords enums) (.field .nil (.field .nil
      (.field .absent (.field .absent (.field (.list []) (.field (.list [])
        (.field (.optional none) .empty)))))))))))

end DeviceGen.Descriptor
