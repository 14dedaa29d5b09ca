/-
The header and the source for a schema file.

The messages that are packed are found first, in the order of their declaration; header
and source are then made of the same list.
-/
import DeviceGen.Can.Source
import DeviceGen.Context

namespace DeviceGen.Can

/-- A message as it is packed, if it is. -/
def message? (context : Context) (message : Schema.Message) : Traced (Option Message) :=
  match message.role with
  | .unclassified => pure none
  | role => do
    let bindings ← context.bindings message
    if bindings.isEmpty then
      Traced.log [.nothingToPack message.name]
      return none
    else return some ⟨message.name, role, bindings⟩

/-- The header and the source for a schema file. -/
def files (context : Context) (schema : Schema.File) : Traced (List Output.File) := do
  let messages ← Traced.each (message? context) schema.messages
  let packed := messages.filterMap id
  let headerFile := Output.fileName headerName schema.stem context.selected
  let sourceFile := Output.fileName sourceName schema.stem context.selected
  return [header headerFile packed, source sourceFile headerFile packed]

end DeviceGen.Can
