/-
What headers and sources do not depend on.

Options and numbers of fields get into bindings, but only as keys and identifiers, which are for
user interfaces.  Headers and sources are made of the names and the representations
(`outputs_map_anonymous`), and those follow from the schema without its numbers
(`anonymous_bound`).  So the parameter of a request and the numbers of fields make no difference
to them, nor to whether there are any (`generate_can_plain`).
-/
import DeviceGen.Proofs.Descriptor.Numbering
import DeviceGen.Proofs.Generator.Relevance

namespace DeviceGen

open DeviceGen.Schema (Registry Role)

/-! ### Bindings without what user interfaces need -/

/-- A binding without its key and its identifier. -/
def Binding.anonymous (binding : Binding) : Binding := { binding with key := "", id := "" }

@[simp] theorem Binding.representation_anonymous (binding : Binding) :
    binding.anonymous.representation = binding.representation := rfl

namespace Can

/-- A message whose bindings have no keys and no identifiers. -/
def Message.anonymous (message : Message) : Message :=
  { message with bindings := message.bindings.map Binding.anonymous }

@[simp] theorem Message.bindings_anonymous (message : Message) :
    message.anonymous.bindings = message.bindings.map Binding.anonymous := rfl

theorem isPacked_anonymous (message : Message) :
    message.anonymous.isPacked = message.isPacked := by
  unfold Message.isPacked
  rw [Message.bindings_anonymous, List.isEmpty_map]
  rfl

variable (bindings : List Binding)

theorem packedSize_anonymous :
    packedSize (bindings.map Binding.anonymous) = packedSize bindings := by
  unfold packedSize
  rw [List.foldr_map]
  rfl

theorem placedFrom_anonymous (offset : Nat) :
    placedFrom offset (bindings.map Binding.anonymous)
      = (placedFrom offset bindings).map fun (place, b) => (place, b.anonymous) := by
  induction bindings generalizing offset with
  | nil => rfl
  | cons b bindings ih =>
      rw [List.map_cons, placedFrom, placedFrom, List.map_cons, ← ih]
      rfl

theorem packRoutine_anonymous (message : String) :
    packRoutine message (bindings.map Binding.anonymous) = packRoutine message bindings := by
  unfold packRoutine placed
  rw [placedFrom_anonymous, List.map_map]
  rfl

theorem unpackRoutine_anonymous (message : String) :
    unpackRoutine message (bindings.map Binding.anonymous) = unpackRoutine message bindings := by
  unfold unpackRoutine placed
  rw [placedFrom_anonymous, List.map_map]
  rfl

theorem structLines_anonymous (message : String) :
    structLines message (bindings.map Binding.anonymous) = structLines message bindings := by
  unfold structLines
  rw [packedSize_anonymous, List.map_map]
  rfl

theorem freshEnums_anonymous (seen : List String) :
    freshEnums seen (bindings.map Binding.anonymous) = freshEnums seen bindings := by
  induction bindings generalizing seen with
  | nil => rfl
  | cons b bindings ih =>
      rw [List.map_cons, freshEnums, freshEnums]
      simp only [Binding.representation_anonymous, ih]

theorem declaration_anonymous (message : Message) :
    declaration message.anonymous = declaration message := by
  unfold declaration
  rw [isPacked_anonymous, Message.bindings_anonymous, structLines_anonymous]
  rfl

theorem definition_anonymous (message : Message) :
    definition message.anonymous = definition message := by
  unfold definition
  rw [isPacked_anonymous, Message.bindings_anonymous, packRoutine_anonymous,
    unpackRoutine_anonymous]
  rfl

theorem declarations_anonymous (seen : List String) (messages : List Message) :
    declarations seen (messages.map Message.anonymous) = declarations seen messages := by
  induction messages generalizing seen with
  | nil => rfl
  | cons m messages ih =>
      rw [List.map_cons, declarations, declarations, Message.bindings_anonymous,
        freshEnums_anonymous, declaration_anonymous]
      simp only [ih]
      rfl

/-- **Keys and identifiers do not get into headers and sources.** -/
theorem outputs_map_anonymous (selected : Nat) (stem : String) (messages : List Message) :
    outputs selected stem (messages.map Message.anonymous) = outputs selected stem messages := by
  unfold outputs header source
  rw [declarations_anonymous, List.map_map]
  simp only [Function.comp_def, definition_anonymous]

theorem filter_isPacked_anonymous (messages : List Message) :
    (messages.map Message.anonymous).filter Message.isPacked
      = (messages.filter Message.isPacked).map Message.anonymous := by
  rw [List.filter_map]
  simp only [Function.comp_def, isPacked_anonymous]

end Can

/-- Options, keys and identifiers make no difference to what is generated for devices. -/
theorem Generator.outputs_can_anonymous (options options' : Options) (selected : Nat)
    (stem : String) (messages : List Can.Message) :
    can.outputs options selected stem messages
      = can.outputs options' selected stem (messages.map Can.Message.anonymous) := by
  unfold outputs
  rw [Can.filter_isPacked_anonymous, Can.outputs_map_anonymous]

/-! ### Where keys and identifiers come from -/

section Bound

variable {registry : Registry}

theorem Binding.anonymous_ofField (options options' : Options) (role : Role)
    (message : Schema.Message) (field : Schema.Field) :
    (ofField registry options role message field).map (Option.map anonymous)
      = (ofField registry options' role message.unnumbered field.unnumbered).map
          (Option.map anonymous) := by
  unfold ofField
  show _ = ((field.type.representation registry message.name field.name).map _).map _
  cases field.type.representation registry message.name field.name with
  | error e => rfl
  | ok representation? => cases representation? <;> rfl

/-- The bindings of fields up to keys and identifiers follow from each field's binding up to
them. -/
theorem Binding.ofFields_cons (options : Options) (role : Role) (message : Schema.Message)
    (field : Schema.Field) (fields : List Schema.Field) :
    (ofFields registry options role message (field :: fields)).map (List.map anonymous)
      = (ofField registry options role message field).map (Option.map anonymous) >>= fun b? =>
          (ofFields registry options role message fields).map (List.map anonymous) >>= fun bs =>
            .ok (b?.toList ++ bs) := by
  rw [ofFields]
  cases ofField registry options role message field with
  | error e => rfl
  | ok b? =>
      cases ofFields registry options role message fields with
      | error e => rfl
      | ok bs =>
          show Except.ok ((b?.toList ++ bs).map anonymous) = _
          rw [List.map_append]
          cases b? <;> rfl

theorem Binding.anonymous_ofFields (options options' : Options) (role : Role)
    (message : Schema.Message) (fields : List Schema.Field) :
    (ofFields registry options role message fields).map (List.map anonymous)
      = (ofFields registry options' role message.unnumbered
          (fields.map Schema.Field.unnumbered)).map (List.map anonymous) := by
  induction fields with
  | nil => rfl
  | cons field fields ih =>
      rw [List.map_cons, ofFields_cons, ofFields_cons,
        anonymous_ofField options options' role message field, ih]

theorem except_map_cons {ε α β : Type} (f : α → β) (x : Except ε α) (xs : Except ε (List α)) :
    (do let a ← x; let as ← xs; return a :: as : Except ε (List α)).map (List.map f)
      = do let b ← x.map f; let bs ← xs.map (List.map f); return b :: bs := by
  cases x with
  | error e => rfl
  | ok a => cases xs <;> rfl

variable {context context' : Context}

theorem Context.anonymous_bind (hregistry : context.registry = context'.registry)
    (message : Schema.Message) :
    (context.bind message).map Can.Message.anonymous
      = (context'.bind message.unnumbered).map Can.Message.anonymous := by
  have hbindings : (Binding.ofFields context'.registry context.options message.role message
      message.fields).map (List.map Binding.anonymous) = _ :=
    Binding.anonymous_ofFields context.options context'.options message.role message message.fields
  have hbound := congrArg (Except.map (Can.Message.mk message.name message.role)) hbindings
  rw [except_map_map, except_map_map] at hbound
  unfold bind Binding.ofMessage
  rw [except_map_map, except_map_map, hregistry]
  exact hbound

/-- Messages are bound alike up to keys and identifiers, whatever numbers their fields have and
whatever options there are. -/
theorem Context.anonymous_bound (hregistry : context.registry = context'.registry)
    (messages : List Schema.Message) :
    (context.bound messages).map (List.map Can.Message.anonymous)
      = (context'.bound (messages.map Schema.Message.unnumbered)).map
          (List.map Can.Message.anonymous) := by
  induction messages with
  | nil => rfl
  | cons message messages ih =>
      have hclassified : message.unnumbered.isClassified = message.isClassified := rfl
      rw [List.map_cons, bound, bound, hclassified]
      by_cases h : message.isClassified = true
      · rw [if_pos h, if_pos h, except_map_cons, except_map_cons, anonymous_bind hregistry, ih]
      · rw [if_neg h, if_neg h, ih]

end Bound

/-! ### Requests -/

namespace Descriptor.Request

/-- A request without its parameter. -/
def withoutParameter : Request → Request
  | .field selected (.field _ rest) => .field selected (.field (.optional none) rest)

/-- What a request says without its parameter and without the numbers of fields. -/
def plain (request : Request) : Request := withoutParameter (unnumbered request)

theorem selected_plain : ∀ request : Request, request.plain.selected = request.selected
  | .field (.list _) (.field _ _) => rfl

theorem files_plain : ∀ request : Request, request.plain.files = request.files.map unnumbered
  | .field _ (.field _ (.field _ (.field files _))) => records_unnumberedInside files

/-- Without numbers there are the same files, but for the numbers. -/
theorem files_ofRequest_plain (request : Request) :
    (Schema.Model.ofRequest request.plain).files
      = (Schema.Model.ofRequest request).files.map Schema.File.unnumbered := by
  show request.plain.files.map Schema.File.ofDescriptor
    = (request.files.map Schema.File.ofDescriptor).map Schema.File.unnumbered
  rw [files_plain, List.map_map, List.map_map]
  exact List.map_congr_left fun file _ => Schema.File.ofDescriptor_unnumbered file

theorem file?_plain (request : Request) (name : String) :
    (Schema.Model.ofRequest request.plain).file? name
      = ((Schema.Model.ofRequest request).file? name).map Schema.File.unnumbered := by
  unfold Schema.Model.file?
  rw [files_ofRequest_plain, List.find?_map]
  rfl

theorem registry_plain (request : Request) :
    request.plain.context.registry = request.context.registry := by
  show Registry.ofFiles (Schema.Model.ofRequest request.plain).files
    = Registry.ofFiles (Schema.Model.ofRequest request).files
  rw [files_ofRequest_plain]
  unfold Registry.ofFiles Registry.declarations
  rw [List.flatMap_map]
  rfl

/-- The same messages are bound without parameter and numbers, up to keys and identifiers. -/
theorem anonymous_bound?_plain (request : Request) (name : String) :
    (request.plain.bound? name).map (Except.map (List.map Can.Message.anonymous))
      = (request.bound? name).map (Except.map (List.map Can.Message.anonymous)) := by
  unfold bound?
  rw [file?_plain, Option.map_map, Option.map_map, Option.map_map]
  refine congrArg (Option.map · ((Schema.Model.ofRequest request).file? name))
    (funext fun schema => ?_)
  exact (Context.anonymous_bound request.registry_plain.symm schema.messages).symm

end Descriptor.Request

namespace Generator

variable {request other : Descriptor.Request}

theorem outputsFor_anonymous (hselected : request.selected = other.selected) (name : String) :
    can.outputsFor request name
      = fun messages => can.outputsFor other name (messages.map Can.Message.anonymous) := by
  funext messages
  unfold outputsFor
  rw [hselected]
  exact outputs_can_anonymous _ _ _ _ messages

/-- **A run for devices goes the same way without the parameter and without numbers of
fields.** -/
theorem generate_can_plain (request : Descriptor.Request) :
    (can.generate request.plain).result = (can.generate request).result := by
  have hmade (r : Descriptor.Request) (hr : r.selected = request.plain.selected) (name : String) :
      (r.bound? name).map (Except.map (can.outputsFor r name))
        = ((r.bound? name).map (Except.map (List.map Can.Message.anonymous))).map
            (Except.map (can.outputsFor request.plain name)) := by
    rw [Option.map_map, outputsFor_anonymous hr]
    refine congrArg (Option.map · (r.bound? name)) (funext fun bound => ?_)
    exact (except_map_map bound _ _).symm
  rw [result_generate_eq, result_generate_eq, Descriptor.Request.selected_plain]
  refine congrArg (Except.map List.flatten) (Traced.bind_each_congr ?_)
  refine Schema.Model.select_congr fun name _ => ?_
  rw [map_result_file?, map_result_file?, hmade request.plain rfl,
    hmade request request.selected_plain.symm, request.anonymous_bound?_plain]

/-- **Options and numbers of fields make no difference to devices.**  Requests that differ only in
their parameters and in the numbers of fields have the same result: files of the same names and
contents, or the same error. -/
theorem generate_can_eq_of_plain_eq (h : request.plain = other.plain) :
    (can.generate request).result = (can.generate other).result := by
  rw [← generate_can_plain request, h, generate_can_plain]

/-- A request for pumps with a parameter, and with the given numbers for their fields. -/
def pumpRequestWith (parameter : Option String) (mode flow : Int32) : Descriptor.Request :=
  .make ["pump.proto"] parameter
    [.make "pump.proto" (some "fw")
      [.make "PumpCtl" [.make "mode" mode 14 ".fw.Mode", .make "flow_rate" flow 1 none]]
      [modeEnum]]

/-- With a parameter that cannot be read, and with other numbers in another order, the header and
the source are the same. -/
theorem generate_can_eq_of_plain_eq_pump :
    (pumpRequestWith none 1 2).plain = (pumpRequestWith (some "keep_case=maybe") 77 (-3)).plain
      ∧ ∃ outputs, (can.generate (pumpRequestWith none 1 2)).result = .ok outputs
        ∧ (can.generate (pumpRequestWith (some "keep_case=maybe") 77 (-3))).result = .ok outputs
        ∧ outputs.map (·.name) = ["can.pb.h", "can.pb.c"] := by
  have hplain : (pumpRequestWith none 1 2).plain
      = (pumpRequestWith (some "keep_case=maybe") 77 (-3)).plain := by rfl
  obtain ⟨outputs, h⟩ : ∃ outputs,
      (can.generate (pumpRequestWith none 1 2)).result = .ok outputs :=
    exists_ok_of_isSome (by decide +kernel)
  refine ⟨hplain, outputs, h, (generate_can_eq_of_plain_eq hplain).symm.trans h, ?_⟩
  obtain ⟨bound, -, rfl⟩ := can.generate_eq_ok.mp h
  rfl

end Generator

end DeviceGen
