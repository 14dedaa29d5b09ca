/-
The offline command.

It does for a set of schema files what the plugins do for a request: it makes the
request for the set, answers it as a plugin does, bytes in and bytes out, and writes the
files of the response below a directory.  The first file that cannot be written ends the
command; those before it stay.
-/
import DeviceGen.Offline.Arguments
import DeviceGen.Offline.Directories
import DeviceGen.Descriptor.Writer
import DeviceGen.Schema.Json
import DeviceGen.Text.Hidden

namespace DeviceGen.Offline

variable {m : Type → Type} [Monad m]

/-- The bytes of the request for files of the set that bytes say. -/
def requestBytes (set : List UInt8) (files : List String) (parameter : Option String) :
    Except Error (List UInt8) :=
  (FileSet.decode set).map fun set => Descriptor.encode (Request.ofFileSet set files parameter)

/-- The files that a generator makes for files of a set. -/
def generated (generator : Generator) (set : List UInt8) (files : List String)
    (parameter : Option String) : Traced (List Output.File) := do
  let request ← Traced.ofExcept (requestBytes set files parameter)
  let response ← generator.run request
  Traced.ofExcept (Response.decode response)

/-- The document of the model of a set. -/
def document (set : List UInt8) : Traced String := do
  let set ← Traced.ofExcept (FileSet.decode set)
  let model ← Generator.model (Request.ofFileSet set [] none)
  return model.dump

/-- Writes files below a directory, in order, and prints where each of them is. -/
def writeFiles (fs : FileSystem m) (out : String) : List Output.File → m (Except Error Unit)
  | [] => return .ok ()
  | file :: files => do
    let path := Path.join out file.name
    match ← fs.write path file.content.toByteArray.data.toList with
    | .error fault => return .error (.io fault)
    | .ok () =>
      fs.print ("Generated " ++ path ++ "\n")
      writeFiles fs out files

/-- Does what is asked for. -/
def perform (fs : FileSystem m) : Command → m (Except Error Unit)
  | .generate generator set files parameter out => do
    match ← fs.read set with
    | .error fault => return .error (.io fault)
    | .ok bytes =>
      let outputs := generated generator bytes files parameter
      fs.report outputs.events
      match outputs.result with
      | .error e => return .error e
      | .ok outputs =>
        match ← makeDirectories fs out with
        | .error fault => return .error (.io fault)
        | .ok () => writeFiles fs out outputs
  | .inspect set => do
    match ← fs.read set with
    | .error fault => return .error (.io fault)
    | .ok bytes =>
      let text := document bytes
      fs.report text.events
      match text.result with
      | .error e => return .error e
      | .ok text =>
        fs.print (text ++ "\n")
        return .ok ()

/-! ### Reports -/

/-- A fault with its particulars. -/
def faultForm : Fault → String
  | .system fault =>
    "Os \x7b code: " ++ toString fault.code ++ ", kind: " ++ fault.name ++ ", message: "
      ++ Text.shown fault.text ++ " \x7d"
  | .nulInName =>
    "Error \x7b kind: InvalidInput, message: " ++ Text.shown Fault.nulInName.text ++ " \x7d"
  | .custom message => "Custom \x7b kind: Other, error: " ++ Text.shown message ++ " \x7d"

/-- An error with its particulars, every text in quotation marks. -/
def errorForm : Error → String
  | .io fault => "Io(" ++ faultForm fault ++ ")"
  | .malformed kind failure =>
    "DecodeError(" ++ Text.shown (Error.malformedText kind failure) ++ ")"
  | .unsupportedVersion major minor patch =>
    "DecodeError(" ++ Text.shown (Error.versionText major minor patch) ++ ")"
  | .missingFile name => "SchemaError(" ++ Text.shown (Error.missingText name) ++ ")"
  | .unresolvedEnum enumName message field =>
    "UnresolvedEnum \x7b enum_name: " ++ Text.shown enumName ++ ", message: "
      ++ Text.shown message ++ ", field: " ++ Text.shown field ++ " \x7d"

/-- What the command says when it fails. -/
def complaint (e : Error) : String := "Error: " ++ errorForm e ++ "\n"

/-! ### Whole runs -/

/-- How a run of the command ended: its exit code and what it said about its failure. -/
structure Outcome where
  code : Nat
  complaint : String
  deriving DecidableEq, Repr

/-- Runs the command with arguments; a request for help is granted by the caller. -/
def run (fs : FileSystem m) (arguments : List String) : m Outcome := do
  match Command.ofArguments arguments with
  | .error .help => return ⟨0, ""⟩
  | .error .usage => return ⟨2, ""⟩
  | .ok command =>
    match ← perform fs command with
    | .ok () => return ⟨0, ""⟩
    | .error e => return ⟨1, complaint e⟩

end DeviceGen.Offline
