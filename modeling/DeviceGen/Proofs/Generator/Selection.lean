/-
Each selected file is generated on its own.

A run finds each selected file by its name and makes files of it, and neither of these looks at
the other selected files.  Only how many there are shows: in the names of the generated files,
and for headers and sources in the guard and in the line that includes the header.  So files
come out in the order of the selection, whichever that is, and a file comes out the same if it
is the only one selected.

Files and enumerations are found by their names, and the first of a name counts.  Where names
are not repeated it makes no difference in which order the files of a request stand.
-/
import Mathlib.Data.List.Find
import Mathlib.Data.List.Nodup
import DeviceGen.Proofs.Generator.Relevance

namespace DeviceGen

open DeviceGen.Descriptor (FieldDescriptor FileDescriptor MessageDescriptor)

/-! ### Requests that differ in their files or in their selection -/

namespace Descriptor.Request

/-- The same request for the code of other files. -/
def withSelected (names : List String) : Request → Request
  | .field _ rest => .field (.list names) rest

/-- The same request with other schema files. -/
def withFiles (files : List FileDescriptor) : Request → Request
  | .field selected (.field parameter (.field version (.field _ rest))) =>
    .field selected (.field parameter (.field version (.field (Slot.ofRecords files) rest)))

variable (request : Request) (names : List String) (files : List FileDescriptor)

@[simp] theorem selected_withSelected : (request.withSelected names).selected = names :=
  match request with
  | .field _ _ => rfl

@[simp] theorem parameter_withSelected :
    (request.withSelected names).parameter = request.parameter :=
  match request with
  | .field _ (.field _ _) => rfl

@[simp] theorem files_withSelected : (request.withSelected names).files = request.files :=
  match request with
  | .field _ (.field _ (.field _ (.field _ _))) => rfl

@[simp] theorem selected_withFiles : (request.withFiles files).selected = request.selected :=
  match request with
  | .field _ (.field _ (.field _ (.field _ _))) => rfl

@[simp] theorem parameter_withFiles : (request.withFiles files).parameter = request.parameter :=
  match request with
  | .field _ (.field _ (.field _ (.field _ _))) => rfl

@[simp] theorem files_withFiles : (request.withFiles files).files = files :=
  match request with
  | .field _ (.field _ (.field _ (.field _ _))) => Data.records_ofRecords files

variable {request other : Request}

/-- What is bound depends on the file that is found, and on the enumerations that are. -/
theorem bound?_congr {name : String} (hparameter : request.parameter = other.parameter)
    (hfile : request.file? name = other.file? name)
    (henums : ∀ e, request.enum? e = other.enum? e) : request.bound? name = other.bound? name := by
  rw [bound?_eq, bound?_eq, hfile]
  refine congrArg (Option.map · (other.file? name)) (funext fun file => ?_)
  refine Context.bound_congr (congrArg Options.ofParameter hparameter) ?_
  intro _ _ _ _ e _
  rw [get?_registry, get?_registry, henums]

theorem bound?_withSelected (request : Request) (names : List String) (name : String) :
    (request.withSelected names).bound? name = request.bound? name :=
  bound?_congr (request.parameter_withSelected names)
    (by rw [file?, file?, files_withSelected]) (fun e => by rw [enum?, enum?, files_withSelected])

end Descriptor.Request

/-- Of things with different keys, the one with a key is found in any order. -/
theorem find?_perm {α : Type} (key : α → String) {l l' : List α} (hperm : l.Perm l')
    (hnodup : (l.map key).Nodup) (k : String) :
    l.find? (key · = k) = l'.find? (key · = k) := by
  refine List.find?_eq_find?_of_perm hperm fun a ⟨ha, hka⟩ b ⟨hb, hkb⟩ => ?_
  exact List.inj_on_of_nodup_map hnodup ha hb
    ((of_decide_eq_true hka).trans (of_decide_eq_true hkb).symm)

namespace Generator

variable {request : Descriptor.Request}

/-! ### Any order -/

/-- The names of what is generated for a selected name: a file of widgets, or a header and then
a source. -/
def fileNames (generator : Generator) (selected : Nat) (name : String) : List String :=
  let stem := Text.beforeEnding ".proto" name
  match generator with
  | .widgets => [Output.fileName Widgets.ownName stem selected]
  | .can => [Output.fileName Can.headerName stem selected,
      Output.fileName Can.sourceName stem selected]

theorem map_name_outputsFor (generator : Generator) (request : Descriptor.Request) (name : String)
    (messages : List Can.Message) :
    (generator.outputsFor request name messages).map (·.name)
      = generator.fileNames request.selected.length name := by
  cases generator <;> rfl

theorem outputsFor_withSelected (generator : Generator) {names : List String}
    (hlength : names.length = request.selected.length) :
    generator.outputsFor (request.withSelected names) = generator.outputsFor request := by
  unfold outputsFor Descriptor.Request.options
  rw [Descriptor.Request.parameter_withSelected, Descriptor.Request.selected_withSelected, hlength]

theorem generate_withFiles (generator : Generator)
    (hfiles : (request.files.map (·.name)).Nodup)
    (henums : ((request.files.flatMap Schema.enumsOf).map (·.name)).Nodup)
    {files : List FileDescriptor} (hperm : files.Perm request.files) :
    (generator.generate (request.withFiles files)).result
      = (generator.generate request).result := by
  refine generator.generate_congr (request.selected_withFiles files)
    (request.parameter_withFiles files) fun name _ => ?_
  refine Descriptor.Request.bound?_congr (request.parameter_withFiles files) ?_ fun e => ?_
  · unfold Descriptor.Request.file?
    rw [Descriptor.Request.files_withFiles]
    exact (find?_perm FileDescriptor.name hperm.symm hfiles name).symm
  · unfold Descriptor.Request.enum?
    rw [Descriptor.Request.files_withFiles]
    exact (find?_perm Schema.Enumeration.name (hperm.symm.flatMap_right _) henums e).symm

/-- **Order makes no difference.**  If neither names of files nor full names of enumerations are
repeated, then the result is the same in whichever order the files stand.  And what is generated
are the files of each selected name, in the order of the selection, whichever that is. -/
theorem generate_in_any_order (generator : Generator) (request : Descriptor.Request)
    (hfiles : (request.files.map (·.name)).Nodup)
    (henums : ((request.files.flatMap Schema.enumsOf).map (·.name)).Nodup) :
    (∀ files : List FileDescriptor, files.Perm request.files →
        (generator.generate (request.withFiles files)).result
          = (generator.generate request).result)
      ∧ ∀ outputs, (generator.generate request).result = .ok outputs →
        ∃ group : String → List Output.File,
          (∀ name, (group name).map (·.name)
            = generator.fileNames request.selected.length name)
          ∧ outputs = request.selected.flatMap group
          ∧ ∀ names : List String, names.Perm request.selected →
            (generator.generate (request.withSelected names)).result
              = .ok (names.flatMap group) := by
  refine ⟨fun files => generator.generate_withFiles hfiles henums, fun outputs h => ?_⟩
  obtain ⟨bound, hbound, houtputs⟩ := generator.generate_eq_ok.mp h
  refine ⟨fun name => generator.outputsFor request name (bound name),
    fun name => generator.map_name_outputsFor request name _, houtputs, fun names hperm => ?_⟩
  rw [generate_eq_ok, Descriptor.Request.selected_withSelected,
    outputsFor_withSelected generator hperm.length_eq]
  refine ⟨bound, fun name hname => ?_, rfl⟩
  rw [Descriptor.Request.bound?_withSelected]
  exact hbound name (hperm.mem_iff.mp hname)

/-- A request for pumps and valves, which both have a mode. -/
def plantRequest : Descriptor.Request :=
  .make ["pump.proto", "valve.proto"] none
    [pumpFile (some "plant") [] [],
      FileDescriptor.make "valve.proto" (some "plant")
        [MessageDescriptor.make "ValveTlm" [FieldDescriptor.make "mode" 4 14 ".fw.Mode"]] [],
      FileDescriptor.make "mode.proto" (some "fw") [] [modeEnum]]

theorem generate_plantRequest : ∃ outputs, (can.generate plantRequest).result = .ok outputs :=
  exists_ok_of_isSome (by decide +kernel)

theorem generate_in_any_order_plant :
    ∃ pump valve : List Output.File,
      pump.map (·.name) = ["pump.can.pb.h", "pump.can.pb.c"]
        ∧ (can.generate plantRequest).result = .ok (pump ++ valve)
        ∧ (can.generate (plantRequest.withFiles plantRequest.files.reverse)).result
          = .ok (pump ++ valve)
        ∧ (can.generate (plantRequest.withSelected ["valve.proto", "pump.proto"])).result
          = .ok (valve ++ pump) := by
  obtain ⟨outputs, h⟩ := generate_plantRequest
  obtain ⟨hfiles, hselected⟩ :=
    generate_in_any_order can plantRequest (by decide +kernel) (by decide +kernel)
  obtain ⟨group, hnames, rfl, hgroups⟩ := hselected outputs h
  have hpair : plantRequest.selected.flatMap group
      = group "pump.proto" ++ group "valve.proto" := by
    show ["pump.proto", "valve.proto"].flatMap group = _
    simp
  have hswap : ["valve.proto", "pump.proto"].Perm plantRequest.selected := .swap _ _ _
  have hswapped := hgroups _ hswap
  have hreversed := hfiles _ plantRequest.files.reverse_perm
  refine ⟨group "pump.proto", group "valve.proto", ?_, ?_, ?_, ?_⟩
  · rw [hnames]
    decide +kernel
  · exact hpair ▸ h
  · exact hpair ▸ hreversed.trans h
  · simpa using hswapped

/-! ### One by one -/

/-- Files that differ at most in their names, in the guard of a header, and in the line of a
source that includes the header. -/
def Corresponds : Generator → List Output.File → List Output.File → Prop
  | .widgets, outputs, others => ∃ file other, outputs = [file] ∧ others = [other]
      ∧ file.content = other.content
  | .can, outputs, others => ∃ header source header' source',
      outputs = [header, source] ∧ others = [header', source']
      ∧ (∃ body,
          header.content = Can.headerPreamble (C.guardName header.name) ++ body
            ++ Can.headerEpilogue (C.guardName header.name)
          ∧ header'.content = Can.headerPreamble (C.guardName header'.name) ++ body
            ++ Can.headerEpilogue (C.guardName header'.name))
      ∧ ∃ body,
          source.content = Can.sourcePreamble (Output.baseName header.name) ++ body
          ∧ source'.content = Can.sourcePreamble (Output.baseName header'.name) ++ body

/-- The number of selected files does not show in the bodies. -/
theorem corresponds_outputs (generator : Generator) (options : Options) (selected selected' : Nat)
    (stem : String) (messages : List Can.Message) :
    generator.Corresponds (generator.outputs options selected stem messages)
      (generator.outputs options selected' stem messages) := by
  cases generator with
  | widgets => exact ⟨_, _, rfl, rfl, rfl⟩
  | can =>
      let packed := messages.filter Can.Message.isPacked
      exact ⟨_, _, _, _, rfl, rfl, ⟨_, rfl, rfl⟩,
        String.join ((packed.map Can.definition).map Output.Part.text),
        String.append_empty, String.append_empty⟩

/-- **Files come out the same alone.**  If a run for several files ends well, so does a run for
any one of them, and both give the same for this file but for the names. -/
theorem generate_alone (generator : Generator) {outputs : List Output.File}
    (h : (generator.generate request).result = .ok outputs) :
    ∃ groups : List (List Output.File), outputs = groups.flatten
      ∧ groups.map (List.map (·.name))
        = request.selected.map (generator.fileNames request.selected.length)
      ∧ ∀ (i : Nat) (name : String), request.selected[i]? = some name →
        ∃ group alone : List Output.File, groups[i]? = some group
          ∧ (generator.generate (request.withSelected [name])).result = .ok alone
          ∧ alone.map (·.name) = generator.fileNames 1 name
          ∧ generator.Corresponds group alone := by
  obtain ⟨bound, hbound, houtputs⟩ := generator.generate_eq_ok.mp h
  refine ⟨request.selected.map fun name => generator.outputsFor request name (bound name),
    houtputs.trans List.flatMap_def, ?_, fun i name hname => ?_⟩
  · rw [List.map_map]
    exact List.map_congr_left fun name _ => generator.map_name_outputsFor request name _
  · have hmem : name ∈ request.selected := List.mem_of_getElem? hname
    refine ⟨generator.outputsFor request name (bound name),
      generator.outputsFor (request.withSelected [name]) name (bound name), ?_, ?_, ?_, ?_⟩
    · rw [List.getElem?_map, hname, Option.map_some]
    · rw [generate_eq_ok, Descriptor.Request.selected_withSelected]
      refine ⟨bound, fun other hother => ?_, by rw [List.flatMap_singleton]⟩
      rw [List.mem_singleton.mp hother, Descriptor.Request.bound?_withSelected]
      exact hbound name hmem
    · rw [map_name_outputsFor, Descriptor.Request.selected_withSelected, List.length_singleton]
    · unfold outputsFor Descriptor.Request.options
      rw [Descriptor.Request.parameter_withSelected]
      exact generator.corresponds_outputs _ _ _ _ _

theorem generate_alone_plant :
    ∃ (groups : List (List Output.File)) (group alone : List Output.File),
      (can.generate plantRequest).result = .ok groups.flatten
        ∧ groups[1]? = some group
        ∧ (can.generate (plantRequest.withSelected ["valve.proto"])).result = .ok alone
        ∧ alone.map (·.name) = ["can.pb.h", "can.pb.c"]
        ∧ can.Corresponds group alone := by
  obtain ⟨outputs, h⟩ := generate_plantRequest
  obtain ⟨groups, rfl, -, halone⟩ := generate_alone can h
  obtain ⟨group, alone, hgroup, hrun, hnames, hsame⟩ := halone 1 "valve.proto" rfl
  refine ⟨groups, group, alone, h, hgroup, hrun, ?_, hsame⟩
  rw [hnames]
  decide +kernel

end Generator

end DeviceGen
