/-
Why no code is generated.

Errors are causes with the names that belong to them.  What is shown is computed from
the cause: which family it belongs to, then the particulars.
-/
import DeviceGen.Descriptor.Kind
import DeviceGen.Fault
import DeviceGen.Text.Quoted

namespace DeviceGen

/-- Why a run ends without code. -/
inductive Error where
  /-- Reading or writing failed. -/
  | io (fault : Fault)
  /-- Bytes are no message of the kind that was expected. -/
  | malformed (kind : Descriptor.Kind) (failure : Wire.Failure)
  /-- A request comes from a compiler that is too old. -/
  | unsupportedVersion (major minor patch : Int32)
  /-- Code is asked for a file that is not in the request. -/
  | missingFile (name : String)
  /-- A field that needs an enumeration names one that is nowhere declared. -/
  | unresolvedEnum (enumName message field : String)
  deriving DecidableEq, Repr

namespace Error

/-- What is wrong with bytes that could not be used as a request, a response or a set. -/
def malformedText (kind : Descriptor.Kind) (failure : Wire.Failure) : String :=
  "Malformed " ++ kind.name ++ ": " ++ failure.message

/-- What is wrong with the version of a compiler. -/
def versionText (major minor patch : Int32) : String :=
  "Unsupported compiler version " ++ toString major.toInt ++ "." ++ toString minor.toInt ++ "."
    ++ toString patch.toInt

/-- What is wrong with the selection of a file. -/
def missingText (name : String) : String :=
  "The file " ++ Text.quote name
    ++ " is selected for generation but its descriptor was not supplied"

/-- The text of an error. -/
def message : Error → String
  | io fault => "I/O error: " ++ fault.text
  | malformed kind failure => "Request decode error: " ++ malformedText kind failure
  | unsupportedVersion major minor patch =>
      "Request decode error: " ++ versionText major minor patch
  | missingFile name => "Schema error: " ++ missingText name
  | unresolvedEnum enumName message field =>
      "Unresolved enum " ++ enumName ++ " referenced by field " ++ message ++ "." ++ field

end Error

end DeviceGen
