/-
Fields bound to what a generator needs to know of them.

A binding says how the values of a field are represented on a device, which value it
starts from, under which key and identifier a user interface knows it, and how it is
offered there.  Start value and offer follow from the representation alone, the offer
also from the direction in which the message travels.  Fields without a single scalar
value have no binding.
-/
import DeviceGen.Decimal.Literal
import DeviceGen.Options
import DeviceGen.Schema.Registry
import DeviceGen.Schema.Role
import DeviceGen.Text.Case

namespace DeviceGen

open DeviceGen.Schema (EnumValue Registry Role ValueType)

/-- How wide a number is. -/
inductive Width where
  | w32
  | w64
  deriving DecidableEq, Repr

/-- The number of bytes of a width. -/
def Width.bytes : Width → Nat
  | w32 => 4
  | w64 => 8

/-- How values are represented on a device. -/
inductive Representation where
  | integer (width : Width) (signed : Bool)
  | real (width : Width)
  | boolean
  /-- One of the numbers of an enumeration, which is given by its full name. -/
  | choice (enumName : String) (options : List EnumValue)
  deriving DecidableEq, Repr

/-- A value that a field starts from. -/
inductive StartValue where
  | integer (value : Int64)
  | real (value : Double)
  | boolean (value : Bool)
  | choice (number : Int32)
  deriving DecidableEq, Repr

/-- A value as a literal of generated code. -/
def StartValue.literal : StartValue → String
  | integer value => toString value.toInt
  | real value => value.literal
  | boolean value => toString value
  | choice number => toString number.toInt

/-- How a user changes a value. -/
inductive Control where
  /-- A field for numbers, only for whole ones if `whole`. -/
  | stepper (whole : Bool)
  | toggle
  | select
  deriving DecidableEq, Repr

/-- How a value is shown to a user. -/
inductive Readout where
  /-- A number, rounded to so many significant digits if `precision` is given. -/
  | number (precision : Option Nat)
  /-- A mark that is shown while the value is true. -/
  | flag
  /-- The label of an enumeration's number. -/
  | label
  deriving DecidableEq, Repr

/-- What a user interface offers for a value. -/
inductive Affordance where
  | control (control : Control)
  | readout (readout : Readout)
  deriving DecidableEq, Repr

/-- A field with everything a generator needs to know of it. -/
structure Binding where
  /-- The name of the field in its schema. -/
  name : String
  /-- The key of the field in the objects of a user interface. -/
  key : String
  /-- The identifier of the field among the elements of a user interface. -/
  id : String
  representation : Representation
  start : StartValue
  affordance : Affordance
  deriving DecidableEq, Repr

/-- How many significant digits of a real number are shown. -/
def shownDigits : Nat := 4

namespace Representation

/-- The representation of an enumeration. -/
def ofEnumeration (e : Schema.Enumeration) : Representation := choice e.name e.values

/-- Zero, false, or the first number of an enumeration. -/
def start : Representation → StartValue
  | integer _ _ => .integer 0
  | real _ => .real Double.zero
  | boolean => .boolean false
  | choice _ options => .choice ((options.head?.map EnumValue.number).getD 0)

/-- What a user changes a value with. -/
def control : Representation → Control
  | integer _ _ => .stepper true
  | real _ => .stepper false
  | boolean => .toggle
  | choice _ _ => .select

/-- What a value is shown with. -/
def readout : Representation → Readout
  | integer _ _ => .number none
  | real _ => .number (some shownDigits)
  | boolean => .flag
  | choice _ _ => .label

/-- What is offered for a value: a control if the message is sent to a device. -/
def affordance (representation : Representation) : Role → Affordance
  | .outgoing => .control representation.control
  | .incoming | .unclassified => .readout representation.readout

end Representation

/-- The representation of a type, if it has a single scalar value.  A type that names an
enumeration needs its declaration; the names of message and field go into the error. -/
def Schema.ValueType.representation (registry : Registry) (message field : String) :
    ValueType → Except Error (Option Representation)
  | int32 => .ok (some (.integer .w32 true))
  | int64 => .ok (some (.integer .w64 true))
  | uint32 => .ok (some (.integer .w32 false))
  | uint64 => .ok (some (.integer .w64 false))
  | float => .ok (some (.real .w32))
  | double => .ok (some (.real .w64))
  | bool => .ok (some .boolean)
  | enumeration name =>
    (registry.resolve name message field).map fun e => some (.ofEnumeration e)
  | .message | .other => .ok none

namespace Binding

/-- The key of a field: its name, in mixed case unless it is to be kept. -/
def keyOf (options : Options) (name : String) : String :=
  if options.keepCase then name else Text.camelCase name

/-- The identifier of a field: the name of its message and its number. -/
def idOf (message : String) (number : Int32) : String :=
  message ++ "-" ++ toString number.toInt

/-- The binding of a field with a representation. -/
def make (options : Options) (role : Role) (message : String) (field : Schema.Field)
    (representation : Representation) : Binding where
  name := field.name
  key := keyOf options field.name
  id := idOf message field.number
  representation := representation
  start := representation.start
  affordance := representation.affordance role

/-- The binding of a field, if it has one. -/
def ofField (registry : Registry) (options : Options) (role : Role) (message : Schema.Message)
    (field : Schema.Field) : Except Error (Option Binding) :=
  (field.type.representation registry message.name field.name).map
    (·.map (make options role message.name field))

/-- The bindings of fields, in order; the first field that cannot be bound decides. -/
def ofFields (registry : Registry) (options : Options) (role : Role) (message : Schema.Message) :
    List Schema.Field → Except Error (List Binding)
  | [] => .ok []
  | field :: fields => do
    let binding ← ofField registry options role message field
    let bindings ← ofFields registry options role message fields
    return binding.toList ++ bindings

/-- The bindings of a message. -/
def ofMessage (registry : Registry) (options : Options) (role : Role) (message : Schema.Message) :
    Except Error (List Binding) :=
  ofFields registry options role message message.fields

end Binding

end DeviceGen
