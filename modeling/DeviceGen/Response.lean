/-
Responses that carry generated files.
-/
import DeviceGen.Descriptor.Parts
import DeviceGen.Descriptor.Reader
import DeviceGen.Descriptor.Writer
import DeviceGen.Error
import DeviceGen.Output

namespace DeviceGen.Response

open DeviceGen.Descriptor (GeneratedFileRecord)

/-- The number that says that optional fields are understood. -/
def optionalFields : UInt64 := 1

/-- The bytes of a response that carries files. -/
def encode (files : List Output.File) : List UInt8 :=
  Descriptor.encode (Descriptor.Response.make optionalFields
    (files.map fun f => GeneratedFileRecord.make f.name f.content))

/-- The files that the bytes of a response carry. -/
def decode (bytes : List UInt8) : Except Error (List Output.File) := do
  let response : Descriptor.Response ←
    (Descriptor.decode .response bytes).mapError (Error.malformed .response)
  return response.files.map fun f => ⟨f.name, f.content⟩

end DeviceGen.Response
