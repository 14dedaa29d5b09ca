/-
Requests to generate code.

A request comes as bytes from a compiler, which must not be too old, or is made from a
set of schema files.
-/
import DeviceGen.Descriptor.Parts
import DeviceGen.Descriptor.Reader
import DeviceGen.Error

namespace DeviceGen

open DeviceGen.Descriptor (FileSet Request Version)

/-- The oldest first component of a compiler's version that is understood. -/
def oldestMajor : Int32 := 3

namespace Request

/-- Refuses a compiler that says it is too old. -/
def checkVersion (request : Request) : Except Error Request :=
  match request.version? with
  | none => .ok request
  | some version =>
    if version.major < oldestMajor then
      .error (.unsupportedVersion version.major version.minor version.patch)
    else .ok request

/-- What the bytes of a request say, whatever compiler they come from. -/
def read (bytes : List UInt8) : Except Error Request :=
  (Descriptor.decode .request bytes).mapError (Error.malformed .request)

/-- The request that bytes say. -/
def decode (bytes : List UInt8) : Except Error Request := read bytes >>= checkVersion

/-- The request for files of a set; if none is named, for all of them. -/
def ofFileSet (set : FileSet) (selected : List String) (parameter : Option String) : Request :=
  let names := if selected.isEmpty then set.files.map (·.name) else selected
  Descriptor.Request.make names parameter set.files

end Request

/-- The set of schema files that bytes say. -/
def FileSet.decode (bytes : List UInt8) : Except Error FileSet :=
  (Descriptor.decode .fileSet bytes).mapError (Error.malformed .fileSet)

end DeviceGen
