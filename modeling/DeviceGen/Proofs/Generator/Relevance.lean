/-
What a run takes no notice of.

Of a selected file a run looks at the messages whose names end in `Ctl` or `Tlm`, and of each
of their fields at the name, the number, the label, the type and the name of the type.  If the
type is an enumeration and the field is single, then the run also looks up the first declaration
with that name, wherever it stands.  Requests that agree on these things have the same result
(`generate_eq_of_agree`), files and errors alike: packages, other files and messages, enumerations
that no field needs, and all that a descriptor has besides make no difference.
-/
import Mathlib.Data.List.Forall2
import DeviceGen.Proofs.Descriptor.Made
import DeviceGen.Proofs.Generator.Contents

namespace DeviceGen

/-! ### Agreement -/

namespace Descriptor

/-- Fields that a run cannot tell apart. -/
structure FieldDescriptor.Agree (field other : FieldDescriptor) : Prop where
  name : field.name = other.name
  number : field.number = other.number
  label : field.label? = other.label?
  type : field.type? = other.type?
  typeName : field.typeName = other.typeName

instance (field other : FieldDescriptor) : Decidable (field.Agree other) :=
  decidable_of_iff (field.name = other.name ∧ field.number = other.number
      ∧ field.label? = other.label? ∧ field.type? = other.type? ∧ field.typeName = other.typeName)
    ⟨fun ⟨h₁, h₂, h₃, h₄, h₅⟩ => ⟨h₁, h₂, h₃, h₄, h₅⟩, fun ⟨h₁, h₂, h₃, h₄, h₅⟩ =>
      ⟨h₁, h₂, h₃, h₄, h₅⟩⟩

/-- A field with a single value, which is a number of an enumeration. -/
def FieldDescriptor.Chooses (field : FieldDescriptor) : Prop :=
  field.label? ≠ some 3 ∧ field.type? = some 14

instance (field : FieldDescriptor) : Decidable field.Chooses := inferInstanceAs (Decidable (_ ∧ _))

/-- Messages of one name whose fields agree one by one. -/
structure MessageDescriptor.Agree (m other : MessageDescriptor) : Prop where
  name : m.name = other.name
  fields : List.Forall₂ FieldDescriptor.Agree m.fields other.fields

instance (m other : MessageDescriptor) : Decidable (m.Agree other) :=
  decidable_of_iff (m.name = other.name ∧ List.Forall₂ FieldDescriptor.Agree m.fields other.fields)
    ⟨fun ⟨hname, hfields⟩ => ⟨hname, hfields⟩, fun ⟨hname, hfields⟩ => ⟨hname, hfields⟩⟩

/-- The messages of a file whose names say what they are for. -/
def FileDescriptor.classified (file : FileDescriptor) : List MessageDescriptor :=
  file.messages.filter fun m => Text.hasEnding "Ctl" m.name || Text.hasEnding "Tlm" m.name

/-- Files whose classified messages agree one by one. -/
def FileDescriptor.Agree (file other : FileDescriptor) : Prop :=
  List.Forall₂ MessageDescriptor.Agree file.classified other.classified

instance (file other : FileDescriptor) : Decidable (file.Agree other) :=
  inferInstanceAs (Decidable (List.Forall₂ _ _ _))

namespace Request

/-- The first file with a name. -/
def file? (request : Request) (name : String) : Option FileDescriptor :=
  request.files.find? (·.name = name)

/-- The first enumeration with a full name, in any file and at any depth. -/
def enum? (request : Request) (name : String) : Option Schema.Enumeration :=
  (request.files.flatMap Schema.enumsOf).find? (·.name = name)

/-- Requests that agree on all that a run looks at. -/
structure Agree (request other : Request) : Prop where
  selected : request.selected = other.selected
  parameter : request.parameter = other.parameter
  found : ∀ name ∈ request.selected, (request.file? name).isSome = (other.file? name).isSome
  files : ∀ name ∈ request.selected, ∀ file ∈ request.file? name,
    ∀ otherFile ∈ other.file? name, file.Agree otherFile
  enums : ∀ name ∈ request.selected, ∀ file ∈ request.file? name, ∀ m ∈ file.classified,
    ∀ field ∈ m.fields, field.Chooses → request.enum? field.typeName = other.enum? field.typeName

end Request

end Descriptor

open DeviceGen.Descriptor (FieldDescriptor FileDescriptor MessageDescriptor)
open DeviceGen.Schema (Registry Role ValueType)

/-! ### Descriptors that agree -/

section Descriptors

theorem Descriptor.FieldDescriptor.Agree.ofDescriptor_eq {field other : FieldDescriptor}
    (h : field.Agree other) :
    Schema.Field.ofDescriptor field = Schema.Field.ofDescriptor other := by
  unfold Schema.Field.ofDescriptor ValueType.ofDescriptor
  rw [h.name, h.number, h.label, h.type, h.typeName]

theorem Descriptor.MessageDescriptor.Agree.ofDescriptor_eq {m other : MessageDescriptor}
    (h : m.Agree other) : Schema.Message.ofDescriptor m = Schema.Message.ofDescriptor other := by
  unfold Schema.Message.ofDescriptor
  rw [h.name, map_eq_of_forall₂ h.fields fun _ _ hfield => hfield.ofDescriptor_eq]

theorem isClassified_ofDescriptor (m : MessageDescriptor) :
    (Schema.Message.ofDescriptor m).isClassified
      = (Text.hasEnding "Ctl" m.name || Text.hasEnding "Tlm" m.name) := by
  show decide (Role.ofName m.name ≠ .unclassified) = _
  rw [Role.ofName]
  cases Text.hasEnding "Ctl" m.name <;> cases Text.hasEnding "Tlm" m.name <;> rfl

theorem filter_isClassified (file : FileDescriptor) :
    (Schema.File.ofDescriptor file).messages.filter Schema.Message.isClassified
      = file.classified.map Schema.Message.ofDescriptor := by
  unfold FileDescriptor.classified
  show (file.messages.map Schema.Message.ofDescriptor).filter _ = _
  rw [List.filter_map]
  simp only [Function.comp_def, isClassified_ofDescriptor]

end Descriptors

/-! ### Bindings that agree -/

section Bindings

variable {registry registry' : Registry} {context context' : Context}

/-- A type needs only the enumeration that it names. -/
theorem Schema.ValueType.representation_congr {type : ValueType} (message field : String)
    (h : ∀ name, type = .enumeration name → registry.get? name = registry'.get? name) :
    type.representation registry message field = type.representation registry' message field := by
  cases type with
  | enumeration name =>
      rw [representation, representation, Registry.resolve, Registry.resolve, h name rfl]
  | _ => rfl

theorem Binding.ofFields_congr (options : Options) (role : Role) (message : Schema.Message)
    {fields : List Schema.Field}
    (h : ∀ field ∈ fields, ∀ name, field.type = .enumeration name →
      registry.get? name = registry'.get? name) :
    ofFields registry options role message fields
      = ofFields registry' options role message fields := by
  induction fields with
  | nil => rfl
  | cons field fields ih =>
      rw [ofFields, ofFields, ofField, ofField,
        ValueType.representation_congr message.name field.name (h field List.mem_cons_self),
        ih fun other hother => h other (List.mem_cons_of_mem field hother)]

/-- Messages without a role are not bound. -/
theorem Context.bound_filter (context : Context) (messages : List Schema.Message) :
    context.bound (messages.filter Schema.Message.isClassified) = context.bound messages := by
  induction messages with
  | nil => rfl
  | cons message messages ih =>
      by_cases hclassified : message.isClassified = true
      · rw [List.filter_cons_of_pos hclassified, bound, bound, if_pos hclassified,
          if_pos hclassified, ih]
      · rw [List.filter_cons_of_neg hclassified, bound, if_neg hclassified, ih]

/-- Messages are bound alike in contexts with the enumerations that their fields need. -/
theorem Context.bound_congr (hoptions : context.options = context'.options)
    {messages : List Schema.Message}
    (h : ∀ message ∈ messages, ∀ field ∈ message.fields, ∀ name,
      field.type = .enumeration name → context.registry.get? name = context'.registry.get? name) :
    context.bound messages = context'.bound messages := by
  induction messages with
  | nil => rfl
  | cons message messages ih =>
      have hbind : context.bind message = context'.bind message := by
        unfold bind Binding.ofMessage
        rw [hoptions, Binding.ofFields_congr context'.options message.role message
          (h message List.mem_cons_self)]
      rw [bound, bound, hbind,
        ih fun other hother => h other (List.mem_cons_of_mem message hother)]

end Bindings

/-! ### Requests that agree -/

namespace Descriptor.Request

variable {request other : Request}

/-- The registry of a request knows the first enumeration with a name. -/
theorem get?_registry (request : Request) (name : String) :
    request.context.registry.get? name = request.enum? name := by
  show (Registry.ofFiles (request.files.map Schema.File.ofDescriptor)).get? name = _
  rw [Registry.get?_ofFiles, List.flatMap_map]
  rfl

theorem bound?_eq (request : Request) (name : String) :
    request.bound? name = (request.file? name).map fun file =>
      request.context.bound (file.classified.map Schema.Message.ofDescriptor) := by
  unfold bound?
  rw [Schema.Model.file?_ofRequest, Option.map_map]
  refine congrArg (Option.map · (request.file? name)) (funext fun file => ?_)
  rw [Function.comp, ← filter_isClassified, Context.bound_filter]

/-- Requests that agree have the same bound messages under each selected name. -/
theorem Agree.bound?_eq (h : request.Agree other) {name : String}
    (hname : name ∈ request.selected) : request.bound? name = other.bound? name := by
  have hfound := h.found name hname
  have hfiles := h.files name hname
  have henums := h.enums name hname
  rw [Request.bound?_eq, Request.bound?_eq]
  cases hfile : request.file? name with
  | none =>
      rw [hfile, Option.isSome_none] at hfound
      rw [show other.file? name = none by simpa using hfound.symm]
      rfl
  | some file =>
      rw [hfile, Option.isSome_some] at hfound
      obtain ⟨otherFile, hother⟩ := Option.isSome_iff_exists.mp hfound.symm
      have hmessages : file.classified.map Schema.Message.ofDescriptor
          = otherFile.classified.map Schema.Message.ofDescriptor :=
        map_eq_of_forall₂ (hfiles file hfile otherFile hother) fun _ _ hm => hm.ofDescriptor_eq
      rw [hother, Option.map_some, Option.map_some, ← hmessages]
      refine congrArg some (Context.bound_congr (congrArg Options.ofParameter h.parameter) ?_)
      intro message hmessage field hfield enumName htype
      obtain ⟨m, hm, rfl⟩ := List.mem_map.mp hmessage
      obtain ⟨descriptor, hdescriptor, rfl⟩ := List.mem_map.mp hfield
      obtain ⟨hlabel, hcode, rfl⟩ := ValueType.ofDescriptor_eq_enumeration.mp htype
      rw [get?_registry, get?_registry]
      exact henums file hfile m hm descriptor hdescriptor ⟨hlabel, hcode⟩

end Descriptor.Request

/-- **A run looks at nothing else.**  Requests that agree have the same result, whichever
generator it is. -/
theorem Generator.generate_eq_of_agree {request other : Descriptor.Request}
    (h : request.Agree other) (generator : Generator) :
    (generator.generate request).result = (generator.generate other).result :=
  generator.generate_congr h.selected h.parameter fun _ hname => h.bound?_eq hname

/-- A file of pumps, which are run in a mode that is declared elsewhere. -/
def pumpFile (package : Option String) (others : List MessageDescriptor)
    (enums : List Descriptor.EnumDescriptor) : FileDescriptor :=
  FileDescriptor.make "pump.proto" package
    (others ++ [MessageDescriptor.make "PumpCtl" [FieldDescriptor.make "mode" 1 14 ".fw.Mode",
      FieldDescriptor.make "flow_rate" 2 1 none]]) enums

/-- The modes of a pump. -/
def modeEnum : Descriptor.EnumDescriptor :=
  .make "Mode" [.make "OFF" 0, .make "ON" 1]

/-- A request for pumps whose modes stand in a file of their own. -/
def pumpRequest : Descriptor.Request :=
  .make ["pump.proto"] none
    [pumpFile (some "plant") [] [], FileDescriptor.make "mode.proto" (some "fw") [] [modeEnum]]

/-- The same request with other packages, with drafts that nothing is generated for, and with
the modes among other things in front of it. -/
def grownPumpRequest : Descriptor.Request :=
  .make ["pump.proto"] none
    [FileDescriptor.make "common.proto" (some "fw") [MessageDescriptor.make "ValveTlm" []]
        [.make "Unit" [.make "BAR" 7], modeEnum],
      pumpFile none [MessageDescriptor.make "Draft" [FieldDescriptor.make "mode" 1 14 ".Lost"]]
        [.make "Mode" [.make "IDLE" 5]]]

theorem generate_eq_of_agree_pump :
    pumpRequest.Agree grownPumpRequest ∧ pumpRequest ≠ grownPumpRequest
      ∧ ∀ generator : Generator, (generator.generate pumpRequest).result
        = (generator.generate grownPumpRequest).result := by
  have hagree : pumpRequest.Agree grownPumpRequest :=
    ⟨rfl, rfl, by decide +kernel, by decide +kernel, by decide +kernel⟩
  refine ⟨hagree, fun h => ?_, Generator.generate_eq_of_agree hagree⟩
  have hnames := congrArg (fun request => request.files.map (·.name)) h
  exact absurd hnames (by decide +kernel)

end DeviceGen
