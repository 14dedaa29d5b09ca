/-
What the widget of a message consists of.

A form edits its state, and a panel shows it.  Both are told apart here from their text: an entry
of the state has a key of its own, and an element has the keys that it reads and writes and the
identifiers that stand in it, each where it stands.  Nothing makes these the same but the binding
that all of them come from.

A binding offers what its role and its representation ask for, so a form finds a control in each
of its bindings and a panel finds a readout.  No binding is passed over, and the lines of a widget
are a frame that is known from the name of the message, with an entry and an element for each
scalar field in it.
-/
import DeviceGen.Proofs.Bindings
import DeviceGen.Widgets

namespace DeviceGen

open DeviceGen.Schema (EnumValue Registry Role)
open DeviceGen.Text (braced quote unlines)

/-! ### What bindings offer -/

/-- A binding offers and starts from what its representation asks for in the role. -/
structure Binding.IsCoherent (role : Role) (b : Binding) : Prop where
  affordance : b.affordance = b.representation.affordance role
  start : b.start = b.representation.start

theorem Binding.isCoherent_of_mem {registry : Registry} {options : Options} {role : Role}
    {message : Schema.Message} {bindings : List Binding}
    (h : ofMessage registry options role message = .ok bindings) :
    ∀ b ∈ bindings, b.IsCoherent role := by
  replace h := forall₂_ofMessage h
  generalize message.scalarFields = fields at h
  induction h with
  | nil => simp
  | cons hfield _ ih =>
      obtain ⟨r, rfl, -⟩ := hfield
      rw [List.forall_mem_cons]
      exact ⟨⟨rfl, rfl⟩, ih⟩

/-- A binding is of a field: it has its name, its key and its identifier, and represents its
type. -/
structure Binding.Binds (registry : Registry) (options : Options) (message : Schema.Message)
    (field : Schema.Field) (b : Binding) : Prop where
  name : b.name = field.name
  key : b.key = keyOf options field.name
  id : b.id = idOf message.name field.number
  representation :
    field.type.representation registry message.name field.name = .ok (some b.representation)

theorem Binding.forall₂_binds {registry : Registry} {options : Options} {role : Role}
    {message : Schema.Message} {bindings : List Binding}
    (h : ofMessage registry options role message = .ok bindings) :
    List.Forall₂ (Binds registry options message) message.scalarFields bindings := by
  refine (forall₂_ofMessage h).imp ?_
  intro field b ⟨r, hb, hr⟩
  subst hb
  exact ⟨rfl, rfl, rfl, hr⟩

namespace Widgets

/-! ### Frames -/

/-- The lines around what a widget has for each binding. -/
structure Frame where
  /-- The lines before the entries of the state. -/
  opening : List String
  /-- The lines between the entries of the state and the elements. -/
  middle : List String
  closing : List String

/-- The lines of a frame with entries and elements in it. -/
def Frame.around (frame : Frame) (entries elements : List String) : List String :=
  frame.opening ++ entries ++ frame.middle ++ elements ++ frame.closing

/-- The first lines of the widget of a message.  A state without entries ends where it begins. -/
def stateOpening (message : String) (isEmpty : Bool) : List String :=
  ["", "export function " ++ message ++ "() \x7b",
    "  const [" ++ stateName message ++ ", " ++ setterName message ++ "] = useState("
      ++ if isEmpty then braced "" ++ ");" else "\x7b"]

/-- The line after the entries of a state. -/
def stateClosing (isEmpty : Bool) : List String := if isEmpty then [] else ["  \x7d);"]

/-- The frame of a form, for the name of a message and whether nothing is in it. -/
def formFrame (message : String) (isEmpty : Bool) : Frame where
  opening := stateOpening message isEmpty
  middle := stateClosing isEmpty ++ formOpening message
  closing := formClosing

/-- The frame of a panel, for the name of a message and whether nothing is in it. -/
def panelFrame (message : String) (isEmpty : Bool) : Frame where
  opening := stateOpening message isEmpty
  middle := stateClosing isEmpty ++ panelOpening message
  closing := panelClosing

/-! ### Entries and elements -/

/-- An entry of the state of a widget. -/
structure Entry where
  key : String
  /-- The literal of the value that the entry starts from. -/
  start : String

/-- The line of an entry. -/
def Entry.line (entry : Entry) : String := "    " ++ entry.key ++ ": " ++ entry.start ++ ","

/-- What a user changes a value with. -/
inductive Input where
  | number (whole : Bool)
  | checkbox
  | select (options : List EnumValue)

/-- An element of a form with its label. -/
structure FormElement where
  /-- The identifier of the element that the label is for. -/
  labelFor : String
  caption : String
  id : String
  /-- The key of the value that is shown. -/
  reads : String
  /-- The key that a new value is put under. -/
  writes : String
  input : Input

namespace FormElement

/-- The property that puts a new value into the state. -/
def handler (message : String) (element : FormElement) (value : String) : String :=
  "onChange=" ++ braced ("(e) => " ++ setterName message ++ "("
    ++ braced (" ..." ++ stateName message ++ ", " ++ element.writes ++ ": " ++ value ++ " ")
    ++ ")")

/-- The lines of an element and its label. -/
def lines (message : String) (element : FormElement) : List String :=
  ("        <label htmlFor=" ++ quote element.labelFor ++ ">" ++ element.caption ++ "</label>")
    :: match element.input with
      | .number true =>
        ["        <input id=" ++ quote element.id ++ " type=\"number\" step=" ++ "\"1\"",
          "          value=" ++ braced (stateName message ++ "." ++ element.reads),
          "          " ++ element.handler message "Math.trunc(Number(e.target.value))" ++ " />"]
      | .number false =>
        ["        <input id=" ++ quote element.id ++ " type=\"number\" step=" ++ "\"any\"",
          "          value=" ++ braced (stateName message ++ "." ++ element.reads),
          "          " ++ element.handler message "Number(e.target.value)" ++ " />"]
      | .checkbox =>
        ["        <input id=" ++ quote element.id ++ " type=\"checkbox\"",
          "          checked=" ++ braced (stateName message ++ "." ++ element.reads),
          "          " ++ element.handler message "e.target.checked" ++ " />"]
      | .select options =>
        ["        <select id=" ++ quote element.id,
          "          value=" ++ braced (stateName message ++ "." ++ element.reads),
          "          " ++ element.handler message "Number(e.target.value)" ++ ">"]
          ++ options.map optionLine
          ++ ["        </select>"]

end FormElement

/-- What a value is shown as. -/
inductive Display where
  | number (precision : Option Nat)
  | flag
  | label (options : List EnumValue)

/-- An element of a panel: a name and the value beside it. -/
structure PanelElement where
  caption : String
  id : String
  /-- The key of the value that is shown. -/
  reads : String
  display : Display

namespace PanelElement

/-- The name and the value of an element. -/
def pair (indent : String) (element : PanelElement) (content : String) : List String :=
  [indent ++ "<dt>" ++ element.caption ++ "</dt>",
    indent ++ "<dd data-testid=" ++ quote element.id ++ ">" ++ content ++ "</dd>"]

/-- The lines of an element. -/
def lines (message : String) (element : PanelElement) : List String :=
  let value := stateName message ++ "." ++ element.reads
  match element.display with
  | .number none => element.pair "        " (braced value)
  | .number (some digits) =>
    element.pair "        " (braced (value ++ ".toPrecision(" ++ toString digits ++ ")"))
  | .flag =>
    ["        \x7b" ++ value ++ " && (", "          <>"]
      ++ element.pair "            " "true"
      ++ ["          </>", "        )\x7d"]
  | .label options =>
    element.pair "        " (braced ("new Map<number, string>([" ++ labelEntries options
      ++ "]).get(" ++ value ++ ") ?? " ++ value))

end PanelElement

/-! ### Elements of bindings -/

/-- The entry that a binding has in the state. -/
structure Entry.IsFor (entry : Entry) (b : Binding) : Prop where
  key : entry.key = b.key
  start : entry.start = b.start.literal

/-- What a representation is changed with. -/
def inputOf : Representation → Input
  | .integer _ _ => .number true
  | .real _ => .number false
  | .boolean => .checkbox
  | .choice _ options => .select options

/-- What a representation is shown as. -/
def displayOf : Representation → Display
  | .integer _ _ => .number none
  | .real _ => .number (some shownDigits)
  | .boolean => .flag
  | .choice _ options => .label options

/-- The element edits the value of a binding, and its label is its own. -/
structure FormElement.Edits (element : FormElement) (b : Binding) : Prop where
  labelFor : element.labelFor = element.id
  caption : element.caption = b.name
  id : element.id = b.id
  reads : element.reads = b.key
  writes : element.writes = b.key
  input : element.input = inputOf b.representation

/-- The element shows the value of a binding. -/
structure PanelElement.Shows (element : PanelElement) (b : Binding) : Prop where
  caption : element.caption = b.name
  id : element.id = b.id
  reads : element.reads = b.key
  display : element.display = displayOf b.representation

/-- The text is a form with one entry and one element for each of the bindings, in order. -/
def IsForm (message : String) (bindings : List Binding) (text : String) : Prop :=
  ∃ entries elements,
    text = unlines ((formFrame message bindings.isEmpty).around (entries.map Entry.line)
      (elements.flatMap (FormElement.lines message)))
    ∧ List.Forall₂ Entry.IsFor entries bindings
    ∧ List.Forall₂ FormElement.Edits elements bindings

/-- The text is a panel with one entry and one element for each of the bindings, in order. -/
def IsPanel (message : String) (bindings : List Binding) (text : String) : Prop :=
  ∃ entries elements,
    text = unlines ((panelFrame message bindings.isEmpty).around (entries.map Entry.line)
      (elements.flatMap (PanelElement.lines message)))
    ∧ List.Forall₂ Entry.IsFor entries bindings
    ∧ List.Forall₂ PanelElement.Shows elements bindings

/-! ### Lines of widgets -/

/-- The entry of a binding. -/
def entryOf (b : Binding) : Entry := ⟨b.key, b.start.literal⟩

/-- The element that edits the value of a binding. -/
def formElementOf (b : Binding) : FormElement :=
  ⟨b.id, b.name, b.id, b.key, b.key, inputOf b.representation⟩

/-- The element that shows the value of a binding. -/
def panelElementOf (b : Binding) : PanelElement :=
  ⟨b.name, b.id, b.key, displayOf b.representation⟩

theorem forall₂_entryOf (bindings : List Binding) :
    List.Forall₂ Entry.IsFor (bindings.map entryOf) bindings := by
  rw [List.forall₂_map_left_iff, List.forall₂_same]
  intro b _
  exact ⟨rfl, rfl⟩

theorem stateDeclaration_eq (message : String) (bindings : List Binding) :
    opening message ++ stateDeclaration message bindings
      = stateOpening message bindings.isEmpty ++ (bindings.map entryOf).map Entry.line
        ++ stateClosing bindings.isEmpty := by
  have hentry : Entry.line ∘ entryOf = stateEntry := rfl
  rw [List.map_map, hentry]
  unfold stateDeclaration
  cases bindings with
  | nil => simp [opening, stateOpening, stateClosing, String.append_assoc]
  | cons b bs => simp [opening, stateOpening, stateClosing]

/-- A binding of a message that is sent has an element in the form. -/
theorem formBlock_eq {b : Binding} (h : b.IsCoherent .outgoing) (message : String) :
    formBlock message b = (formElementOf b).lines message := by
  rw [formBlock, h.affordance]
  cases hr : b.representation with
  | choice enumName options =>
      show _ :: controlLines message b .select = _
      rw [formElementOf, controlLines, hr]
      rfl
  | _ =>
      rw [formElementOf, hr]
      rfl

/-- A binding of a message that is received has an element in the panel. -/
theorem panelBlock_eq {b : Binding} (h : b.IsCoherent .incoming) (message : String) :
    panelBlock message b = (panelElementOf b).lines message := by
  rw [panelBlock, h.affordance]
  cases hr : b.representation with
  | choice enumName options =>
      show readoutLines message b .label = _
      rw [panelElementOf, readoutLines, hr]
      rfl
  | _ =>
      rw [panelElementOf, hr]
      rfl

theorem isForm_formLines {bindings : List Binding} (h : ∀ b ∈ bindings, b.IsCoherent .outgoing)
    (message : String) : IsForm message bindings (unlines (formLines message bindings)) := by
  refine ⟨bindings.map entryOf, bindings.map formElementOf, congrArg unlines ?_,
    forall₂_entryOf bindings, ?_⟩
  · have helements : bindings.flatMap (formBlock message)
        = (bindings.map formElementOf).flatMap (FormElement.lines message) := by
      rw [List.flatMap_map]
      exact List.flatMap_congr fun b hb => formBlock_eq (h b hb) message
    rw [formLines, stateDeclaration_eq, helements]
    simp [Frame.around, formFrame]
  · rw [List.forall₂_map_left_iff, List.forall₂_same]
    intro b _
    exact ⟨rfl, rfl, rfl, rfl, rfl, rfl⟩

theorem isPanel_panelLines {bindings : List Binding} (h : ∀ b ∈ bindings, b.IsCoherent .incoming)
    (message : String) : IsPanel message bindings (unlines (panelLines message bindings)) := by
  refine ⟨bindings.map entryOf, bindings.map panelElementOf, congrArg unlines ?_,
    forall₂_entryOf bindings, ?_⟩
  · have helements : bindings.flatMap (panelBlock message)
        = (bindings.map panelElementOf).flatMap (PanelElement.lines message) := by
      rw [List.flatMap_map]
      exact List.flatMap_congr fun b hb => panelBlock_eq (h b hb) message
    rw [panelLines, stateDeclaration_eq, helements]
    simp [Frame.around, panelFrame]
  · rw [List.forall₂_map_left_iff, List.forall₂_same]
    intro b _
    exact ⟨rfl, rfl, rfl, rfl⟩

/-! ### Widgets of messages -/

variable {registry : Registry} {options : Options} {message : Schema.Message}
  {bindings : List Binding}

/-- **No scalar field is lost or doubled in a widget.**  The bindings are those of the scalar
fields, one for each and in order.  If the message is sent, each of them has a control, and its
widget is a form with one entry and one element for each; if the message is received, each of
them has a readout, and the widget is a panel with one entry and one element for each. -/
theorem render_each_field
    (h : Binding.ofMessage registry options message.role message = .ok bindings) :
    List.Forall₂ (Binding.Binds registry options message) message.scalarFields bindings
      ∧ (message.role = .outgoing → (∀ b ∈ bindings, ∃ control, b.affordance = .control control)
        ∧ IsForm message.name bindings (render message.name message.role bindings).text)
      ∧ (message.role = .incoming → (∀ b ∈ bindings, ∃ readout, b.affordance = .readout readout)
        ∧ IsPanel message.name bindings (render message.name message.role bindings).text) := by
  have hcoherent := Binding.isCoherent_of_mem h
  refine ⟨Binding.forall₂_binds h, fun hrole => ?_, fun hrole => ?_⟩
  · rw [hrole] at hcoherent ⊢
    exact ⟨fun b hb => ⟨_, (hcoherent b hb).affordance⟩, isForm_formLines hcoherent message.name⟩
  · rw [hrole] at hcoherent ⊢
    exact ⟨fun b hb => ⟨_, (hcoherent b hb).affordance⟩,
      isPanel_panelLines hcoherent message.name⟩

/-- A message with fields of all kinds of values, and two without single values. -/
def mixedMessage (name : String) : Schema.Message where
  name := name
  fields := [⟨"flow_rate", 1, .double⟩, ⟨"notes", 2, .other⟩, ⟨"is_on", 3, .bool⟩,
    ⟨"mode", 4, .enumeration ".pump.Mode"⟩, ⟨"detail", 5, .message⟩, ⟨"Count", 6, .uint32⟩]

/-- An enumeration with a number that two labels have. -/
def modeRegistry : Registry := Registry.empty.declare ⟨".pump.Mode", [⟨"OFF", 0⟩, ⟨"IDLE", 0⟩]⟩

/-- What the bindings of the fields have as keys. -/
def mixedKeys : List String := ["flowRate", "isOn", "mode", "Count"]

theorem render_each_field_mixed :
    (∃ bindings, Binding.ofMessage modeRegistry .default (mixedMessage "PumpCtl").role
          (mixedMessage "PumpCtl") = .ok bindings
        ∧ bindings.map (·.key) = mixedKeys
        ∧ IsForm "PumpCtl" bindings (render "PumpCtl" .outgoing bindings).text)
      ∧ ∃ bindings, Binding.ofMessage modeRegistry .default (mixedMessage "PumpTlm").role
          (mixedMessage "PumpTlm") = .ok bindings
        ∧ bindings.map (·.key) = mixedKeys
        ∧ IsPanel "PumpTlm" bindings (render "PumpTlm" .incoming bindings).text := by
  obtain ⟨sent, hsent, hsentKeys⟩ :
      ∃ bindings, Binding.ofMessage modeRegistry .default (mixedMessage "PumpCtl").role
          (mixedMessage "PumpCtl") = .ok bindings
        ∧ bindings.map (·.key) = mixedKeys := ⟨_, rfl, by decide⟩
  obtain ⟨received, hreceived, hreceivedKeys⟩ :
      ∃ bindings, Binding.ofMessage modeRegistry .default (mixedMessage "PumpTlm").role
          (mixedMessage "PumpTlm") = .ok bindings
        ∧ bindings.map (·.key) = mixedKeys := ⟨_, rfl, by decide⟩
  have hout : (mixedMessage "PumpCtl").role = .outgoing := by decide
  have hin : (mixedMessage "PumpTlm").role = .incoming := by decide
  obtain ⟨-, hform, -⟩ := render_each_field hsent
  obtain ⟨-, -, hpanel⟩ := render_each_field hreceived
  exact ⟨⟨sent, hsent, hsentKeys, hout ▸ (hform hout).2⟩, received, hreceived, hreceivedKeys,
    hin ▸ (hpanel hin).2⟩

end Widgets

end DeviceGen
