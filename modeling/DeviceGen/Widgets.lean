/-
Web widgets for device messages.

A message that is sent to a device becomes a form.  The form edits a copy of the message
that the widget keeps as its state, and publishes that copy.  A message that comes from
a device becomes a panel, whose state is replaced by each message that arrives.

A widget is a frame that depends on the name of its message only, with an entry for each
binding in the initial state and a block of elements for each binding in between.
-/
import DeviceGen.Context
import DeviceGen.Output
import DeviceGen.Text.Lines

namespace DeviceGen.Widgets

open DeviceGen.Schema (EnumValue Role)
open DeviceGen.Text (braced quote unlines)

/-- The name of the generated file. -/
def ownName : String := "widgets.pb.tsx"

/-- The beginning of the generated file, which connects the widgets to the devices. -/
def preamble (options : Options) : String :=
  unlines [
    "// Generated File, do not track.",
    "// Implements react modules for each message defined in .proto files.",
    "import " ++ braced " useState, useEffect " ++ " from \"react\";",
    "import " ++ braced " setMessageHandler, sendMessage " ++ " from "
      ++ quote options.clientModule ++ ";"]

/-! ### State -/

/-- The variable that holds the state of a message's widget. -/
def stateName (message : String) : String := message ++ "State"

/-- The function that replaces the state of a message's widget. -/
def setterName (message : String) : String := "set" ++ message ++ "State"

/-- The entry of a binding in the initial state. -/
def stateEntry (binding : Binding) : String :=
  "    " ++ binding.key ++ ": " ++ binding.start.literal ++ ","

/-- The declaration of the state, with an entry for each binding. -/
def stateDeclaration (message : String) (bindings : List Binding) : List String :=
  let start := "  const [" ++ stateName message ++ ", " ++ setterName message ++ "] = useState("
  if bindings.isEmpty then [start ++ braced "" ++ ");"]
  else [start ++ "\x7b"] ++ bindings.map stateEntry ++ ["  \x7d);"]

/-- The value of a key in the state. -/
def stateValue (message key : String) : String := stateName message ++ "." ++ key

/-! ### Forms -/

/-- The handler that puts a new value under a key of the state. -/
def onChange (message key value : String) : String :=
  "onChange=" ++ braced ("(e) => " ++ setterName message ++ "("
    ++ braced (" ..." ++ stateName message ++ ", " ++ key ++ ": " ++ value ++ " ") ++ ")")

/-- An entry of a list to choose from. -/
def optionLine (value : EnumValue) : String :=
  "          <option value=" ++ braced (toString value.number.toInt) ++ ">" ++ value.label
    ++ "</option>"

/-- The entries to choose from; only enumerations have some. -/
def optionLines : Representation → List String
  | .choice _ options => options.map optionLine
  | _ => []

/-- The element with which a value is changed. -/
def controlLines (message : String) (binding : Binding) : Control → List String
  | .stepper whole =>
    let step := if whole then "\"1\"" else "\"any\""
    let value := if whole then "Math.trunc(Number(e.target.value))" else "Number(e.target.value)"
    ["        <input id=" ++ quote binding.id ++ " type=\"number\" step=" ++ step,
      "          value=" ++ braced (stateValue message binding.key),
      "          " ++ onChange message binding.key value ++ " />"]
  | .toggle =>
    ["        <input id=" ++ quote binding.id ++ " type=\"checkbox\"",
      "          checked=" ++ braced (stateValue message binding.key),
      "          " ++ onChange message binding.key "e.target.checked" ++ " />"]
  | .select =>
    ["        <select id=" ++ quote binding.id,
      "          value=" ++ braced (stateValue message binding.key),
      "          " ++ onChange message binding.key "Number(e.target.value)" ++ ">"]
      ++ optionLines binding.representation
      ++ ["        </select>"]

/-- The label and the element of a binding; one that is only shown has no place in a form. -/
def formBlock (message : String) (binding : Binding) : List String :=
  match binding.affordance with
  | .control control =>
    ("        <label htmlFor=" ++ quote binding.id ++ ">" ++ binding.name ++ "</label>")
      :: controlLines message binding control
  | .readout _ => []

/-- The lines of a form before its elements, after the state. -/
def formOpening (message : String) : List String :=
  ["",
    "  function handleSubmit(submitEvent: React.FormEvent) \x7b",
    "    submitEvent.preventDefault();",
    "    sendMessage(" ++ quote message ++ ", " ++ stateName message ++ ");",
    "  \x7d",
    "",
    "  return (",
    "    <div className=\"widget\">",
    "      <h4>" ++ message ++ "</h4>",
    "      <form className=\"command\" onSubmit=" ++ braced "handleSubmit" ++ ">"]

/-- The lines of a form after its elements. -/
def formClosing : List String :=
  ["        <button type=\"submit\">Send</button>",
    "      </form>",
    "    </div>",
    "  );",
    "\x7d"]

/-! ### Panels -/

/-- The values with a number that no earlier value has, given the numbers before them. -/
def firstOfEachNumber (seen : List Int32) : List EnumValue → List EnumValue
  | [] => []
  | value :: values =>
    if seen.contains value.number then firstOfEachNumber seen values
    else value :: firstOfEachNumber (value.number :: seen) values

/-- A number and its label. -/
def labelEntry (value : EnumValue) : String :=
  "[" ++ toString value.number.toInt ++ ", " ++ quote value.label ++ "]"

/-- The numbers of an enumeration with their labels.  Of several labels for one number
the first is kept: a map built from the entries would keep the last. -/
def labelEntries (values : List EnumValue) : String :=
  String.intercalate ", " ((firstOfEachNumber [] values).map labelEntry)

/-- The labels of a representation; only enumerations have some. -/
def labels : Representation → String
  | .choice _ options => labelEntries options
  | _ => ""

/-- The expression that shows a number, rounded if a precision is given. -/
def shownNumber (value : String) : Option Nat → String
  | some digits => value ++ ".toPrecision(" ++ toString digits ++ ")"
  | none => value

/-- The name of a field above its value. -/
def term (indent : String) (binding : Binding) : String :=
  indent ++ "<dt>" ++ binding.name ++ "</dt>"

/-- The value of a field under its name. -/
def description (indent : String) (binding : Binding) (content : String) : String :=
  indent ++ "<dd data-testid=" ++ quote binding.id ++ ">" ++ content ++ "</dd>"

/-- The elements in which a value is shown. -/
def readoutLines (message : String) (binding : Binding) : Readout → List String
  | .number precision =>
    let value := shownNumber (stateValue message binding.key) precision
    [term "        " binding, description "        " binding (braced value)]
  | .flag =>
    ["        \x7b" ++ stateValue message binding.key ++ " && (",
      "          <>",
      term "            " binding,
      description "            " binding "true",
      "          </>",
      "        )\x7d"]
  | .label =>
    let value := stateValue message binding.key
    let label := "new Map<number, string>([" ++ labels binding.representation ++ "]).get(" ++ value
      ++ ") ?? " ++ value
    [term "        " binding, description "        " binding (braced label)]

/-- The elements of a binding; one that is to be changed has no place in a panel. -/
def panelBlock (message : String) (binding : Binding) : List String :=
  match binding.affordance with
  | .readout readout => readoutLines message binding readout
  | .control _ => []

/-- The lines of a panel before its elements, after the state. -/
def panelOpening (message : String) : List String :=
  ["  useEffect(() => \x7b",
    "    return setMessageHandler(" ++ quote message ++ ", " ++ setterName message ++ ");",
    "  \x7d, []);",
    "",
    "  return (",
    "    <div className=\"widget\">",
    "      <h4>" ++ message ++ "</h4>",
    "      <dl className=\"telemetry\">"]

/-- The lines of a panel after its elements. -/
def panelClosing : List String :=
  ["      </dl>",
    "    </div>",
    "  );",
    "\x7d"]

/-! ### Widgets -/

/-- The first lines of a widget. -/
def opening (message : String) : List String :=
  ["", "export function " ++ message ++ "() \x7b"]

/-- The lines of a form. -/
def formLines (message : String) (bindings : List Binding) : List String :=
  opening message ++ stateDeclaration message bindings ++ formOpening message
    ++ bindings.flatMap (formBlock message) ++ formClosing

/-- The lines of a panel. -/
def panelLines (message : String) (bindings : List Binding) : List String :=
  opening message ++ stateDeclaration message bindings ++ panelOpening message
    ++ bindings.flatMap (panelBlock message) ++ panelClosing

/-- The widget of a message. -/
def render (message : String) (role : Role) (bindings : List Binding) : Output.Part :=
  match role with
  | .outgoing => ⟨role, unlines (formLines message bindings)⟩
  | .incoming => ⟨role, unlines (panelLines message bindings)⟩
  | .unclassified => Output.Part.empty role

/-- What a message contributes to the file; one without a role is passed over. -/
def part (context : Context) (message : Schema.Message) : Traced Output.Part :=
  match message.role with
  | .unclassified => do
    Traced.log [.unclassifiedMessage message.name]
    return Output.Part.empty .unclassified
  | role => do
    let bindings ← context.bindings message
    return render message.name role bindings

/-- The file of widgets for a schema file. -/
def file (context : Context) (schema : Schema.File) : Traced Output.File := do
  let parts ← Traced.each (part context) schema.messages
  let name := Output.fileName ownName schema.stem context.selected
  return Output.assemble name (preamble context.options) "" parts

end DeviceGen.Widgets
