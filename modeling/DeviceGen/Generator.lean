/-
From requests to generated files.

A run builds the model of the whole request, finds the files that code is asked for,
collects all enumerations and reads the parameter; then it generates the files, one
schema file after the other.  Nothing is generated if anything goes wrong.
-/
import DeviceGen.Can.Files
import DeviceGen.Request
import DeviceGen.Response
import DeviceGen.Schema.OfDescriptor
import DeviceGen.Schema.Selection
import DeviceGen.Widgets

namespace DeviceGen

/-- What is generated. -/
inductive Generator where
  | widgets
  | can
  deriving DecidableEq, Repr

namespace Generator

/-- The name of a generator. -/
def name : Generator → String
  | widgets => "widgets"
  | can => "can"

/-- The files for one schema file. -/
def files (generator : Generator) (context : Context) (schema : Schema.File) :
    Traced (List Output.File) :=
  match generator with
  | widgets => do return [← Widgets.file context schema]
  | can => Can.files context schema

/-- The event for a file of the model. -/
def builtEvent (file : Schema.File) : Event :=
  .fileBuilt file.name file.messages.length file.enums.length

/-- The model that a request describes. -/
def model (request : Descriptor.Request) : Traced Schema.Model := do
  let model := Schema.Model.ofRequest request
  Traced.log (model.files.map builtEvent)
  return model

/-- The events for what is wrong with a model and yet no error. -/
def warnings (model : Schema.Model) : List Event :=
  ((Schema.Registry.repeated model.files).map fun (file, e) => .duplicateEnum e.name file)
    ++ (Options.complaints model.parameter).map .optionIgnored

/-- The context of a model. -/
def contextOf (model : Schema.Model) : Context where
  registry := Schema.Registry.ofFiles model.files
  options := Options.ofParameter model.parameter
  selected := model.selected.length

/-- The files that a request asks for, in groups by schema file. -/
def groups (generator : Generator) (request : Descriptor.Request) :
    Traced (List (List Output.File)) := do
  let model ← model request
  let selection ← Traced.ofExcept model.selection
  let context := contextOf model
  Traced.log (warnings model ++ [.enumsCollected context.registry.size context.options])
  Traced.each (generator.files context) selection

/-- The files that a request asks for. -/
def generate (generator : Generator) (request : Descriptor.Request) :
    Traced (List Output.File) := do
  let outputs ← generator.groups request
  Traced.log [.finished generator.name request.selected.length outputs.flatten.length]
  return outputs.flatten

/-- The bytes of the response to the bytes of a request. -/
def run (generator : Generator) (bytes : List UInt8) : Traced (List UInt8) := do
  let request ← Traced.ofExcept (Request.decode bytes)
  let files ← generator.generate request
  return Response.encode files

end Generator

end DeviceGen
