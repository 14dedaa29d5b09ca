/-
Generated files.

A generated file is the parts that its messages contribute, in order, between a fixed
beginning and a fixed end.  Its name is the generator's own if one file was asked for;
with more of them the path of the schema file comes first, so that files of the same
name in different directories stay apart.
-/
import DeviceGen.Schema.Role

namespace DeviceGen.Output

/-- A file by its name and content. -/
structure File where
  name : String
  content : String
  deriving DecidableEq, Repr

/-- What one message contributes to a file. -/
structure Part where
  role : Schema.Role
  text : String
  deriving DecidableEq, Repr

namespace Part

/-- The part of a message that nothing is generated for. -/
def empty (role : Schema.Role) : Part := ⟨role, ""⟩

/-- Whether a part contributes nothing. -/
def isEmpty (part : Part) : Bool := part.text.isEmpty

end Part

/-- The file made of parts between a beginning and an end. -/
def assemble (name opening closing : String) (parts : List Part) : File where
  name := name
  content := opening ++ String.join (parts.map Part.text) ++ closing

/-- The name of a file generated for the schema file with path `stem`, if code for
`selected` files is asked for. -/
def fileName (own stem : String) (selected : Nat) : String :=
  if selected ≤ 1 then own else stem ++ "." ++ own

/-- The name of a file as its neighbours in a directory refer to it. -/
def baseName (name : String) : String := Text.afterLast '/' name

end DeviceGen.Output
