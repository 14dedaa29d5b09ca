/-
Where the fields of a message stand in its packed form.

Fields follow each other in the order of their declaration, without gaps, each in as
many bytes as its representation takes.  Numbers have their low byte first.  The
statements that pack and unpack a field are computed from its representation and its
place alone.
-/
import DeviceGen.Binding
import DeviceGen.C.Body

namespace DeviceGen.Can

open DeviceGen.C (CType Expr Routine Stmt Word)

/-- The number of bytes of a packed value. -/
def packedBytes : Representation → Nat
  | .integer width _ => width.bytes
  | .real width => width.bytes
  | .boolean => 1
  | .choice _ _ => 4

/-- The number of bytes of a packed message. -/
def packedSize (bindings : List Binding) : Nat :=
  bindings.foldr (fun b size => packedBytes b.representation + size) 0

/-- Bindings with the places of their first bytes, from `offset` on. -/
def placedFrom (offset : Nat) : List Binding → List (Nat × Binding)
  | [] => []
  | b :: bs => (offset, b) :: placedFrom (offset + packedBytes b.representation) bs

/-- Bindings with the places of their first bytes. -/
def placed (bindings : List Binding) : List (Nat × Binding) := placedFrom 0 bindings

/-- The type of the member for a representation. -/
def memberType : Representation → CType
  | .integer .w32 true => .int32
  | .integer .w64 true => .int64
  | .integer .w32 false => .uint32
  | .integer .w64 false => .uint64
  | .real .w32 => .float
  | .real .w64 => .double
  | .boolean => .bool
  | .choice enumName _ => .enumeration enumName

/-- The unsigned integer type of a width. -/
def unsignedType : Width → CType
  | .w32 => .uint32
  | .w64 => .uint64

/-- The signed integer type of a width. -/
def signedType : Width → CType
  | .w32 => .int32
  | .w64 => .int64

/-- The word that holds an integer of a width. -/
def integerWord : Width → Word
  | .w32 => .u32
  | .w64 => .u64

/-- The word that holds a real number of a width. -/
def realWord : Width → Word
  | .w32 => .f32
  | .w64 => .f64

/-- The statement that packs a member at a place. -/
def packStmt (offset : Nat) (member : String) : Representation → Stmt
  | .integer width _ =>
    .put (integerWord width) offset (.cast (unsignedType width) (.member member))
  | .real width => .put (realWord width) offset (.member member)
  | .boolean => .setByte offset (.oneIf (.member member))
  | .choice _ _ => .put .u32 offset (.cast .uint32 (.cast .int32 (.member member)))

/-- The statement that unpacks a member from a place. -/
def unpackStmt (offset : Nat) (member : String) : Representation → Stmt
  | .integer width true =>
    .setMember member (.cast (signedType width) (.get (integerWord width) offset))
  | .integer width false => .setMember member (.get (integerWord width) offset)
  | .real width => .setMember member (.get (realWord width) offset)
  | .boolean => .setMember member (.nonzero (.byte offset))
  | .choice enumName _ =>
    .setMember member (.cast (.enumeration enumName) (.cast .int32 (.get .u32 offset)))

/-- The member for the field of a binding. -/
def memberOf (binding : Binding) : String := C.memberName binding.name

/-- The function that packs a message. -/
def packRoutine (message : String) (bindings : List Binding) : Routine where
  direction := .pack
  message := message
  body := (placed bindings).map fun (offset, b) => packStmt offset (memberOf b) b.representation

/-- The function that unpacks a message. -/
def unpackRoutine (message : String) (bindings : List Binding) : Routine where
  direction := .unpack
  message := message
  body := (placed bindings).map fun (offset, b) => unpackStmt offset (memberOf b) b.representation

end DeviceGen.Can
