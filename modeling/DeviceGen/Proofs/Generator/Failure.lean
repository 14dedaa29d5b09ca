/-
When generation fails, and with which error.

Two things can be wrong with a request.  A name may be selected that no file has, and a
field of a selected file may need an enumeration that no file declares.  All names are
looked up before any field is, so the first kind of fault always comes first.  Fields are
looked at file by file, message by message, in order; both generators pass over the same
messages and bind the same fields, so they fail alike.
-/
import DeviceGen.Generator
import DeviceGen.Proofs.FirstFault
import DeviceGen.Proofs.Schema.Declared
import DeviceGen.Proofs.Schema.Registry

namespace DeviceGen

open DeviceGen.Descriptor (FieldDescriptor FileDescriptor MessageDescriptor)
open DeviceGen.Schema (Registry Role ValueType)

/-! ### What can be wrong with a request -/

namespace Descriptor

/-- The fields of the messages of a file that no message encloses, each with its message. -/
def FileDescriptor.places (file : FileDescriptor) : List (MessageDescriptor × FieldDescriptor) :=
  file.messages.flatMap fun m => m.fields.map fun field => (m, field)

namespace Request

/-- No file has the name. -/
def Missing (request : Request) (name : String) : Prop := ∀ file ∈ request.files, file.name ≠ name

/-- The files that code is asked for, in the order of the selection.  Of several files with
one name the first is meant. -/
def selectedFiles (request : Request) : List FileDescriptor :=
  request.selected.filterMap fun name => request.files.find? (·.name = name)

/-- The places at which a generator may need an enumeration. -/
def places (request : Request) : List (MessageDescriptor × FieldDescriptor) :=
  request.selectedFiles.flatMap FileDescriptor.places

/-- Some file declares an enumeration with the full name. -/
def Declares (request : Request) (name : String) : Prop :=
  ∃ file ∈ request.files, ∃ path e, file.Declares path e ∧ file.enumName path e = name

/-- A field needs an enumeration that no file declares.  Label 3 says that a field is
repeated, and type 14 that its values are those of an enumeration. -/
structure Unresolved (request : Request) (place : MessageDescriptor × FieldDescriptor) : Prop where
  classified : ∃ stem, place.1.name = stem ++ "Ctl" ∨ place.1.name = stem ++ "Tlm"
  single : place.2.label? ≠ some 3
  enumeration : place.2.type? = some 14
  undeclared : ¬ request.Declares place.2.typeName

/-- The error for a place with an unresolved enumeration. -/
def unresolvedAt (place : MessageDescriptor × FieldDescriptor) : Error :=
  .unresolvedEnum place.2.typeName place.1.name place.2.name

end Request

end Descriptor

/-! ### Names and types -/

theorem Text.hasEnding_iff {ending text : String} :
    hasEnding ending text = true ↔ ∃ stem, text = stem ++ ending := by
  unfold hasEnding
  rw [List.isSuffixOf_iff_suffix]
  constructor
  · rintro ⟨stem, hstem⟩
    refine ⟨String.ofList stem, String.toList_inj.mp ?_⟩
    rw [String.toList_append, String.toList_ofList, hstem]
  · rintro ⟨stem, rfl⟩
    exact ⟨stem.toList, by rw [String.toList_append]⟩

theorem Schema.Role.ofName_eq_unclassified {name : String} :
    Role.ofName name = .unclassified ↔ ¬ ∃ stem, name = stem ++ "Ctl" ∨ name = stem ++ "Tlm" := by
  rw [exists_or, ← Text.hasEnding_iff, ← Text.hasEnding_iff]
  unfold Role.ofName
  by_cases hctl : Text.hasEnding "Ctl" name = true
  · simp [hctl]
  · by_cases htlm : Text.hasEnding "Tlm" name = true
    · simp [hctl, htlm]
    · simp [hctl, htlm]

theorem Schema.ValueType.ofCode_eq_enumeration {typeName name : String} {code : Int32} :
    ofCode typeName code = .enumeration name ↔ code = 14 ∧ typeName = name := by
  have hcode : code.toInt = 14 ↔ code = 14 := Int32.toInt_inj (y := 14)
  rw [← hcode]
  unfold ofCode
  split <;> simp_all

/-- A field has the type of an enumeration iff its descriptor says so and it is single. -/
theorem Schema.ValueType.ofDescriptor_eq_enumeration {field : FieldDescriptor} {name : String} :
    ofDescriptor field = .enumeration name
      ↔ field.label? ≠ some 3 ∧ field.type? = some 14 ∧ field.typeName = name := by
  unfold ofDescriptor
  by_cases hlabel : field.label? = some repeatedLabel
  · rw [if_pos hlabel]
    constructor
    · intro h
      cases h
    · rintro ⟨hne, -⟩
      exact absurd hlabel hne
  · rw [if_neg hlabel]
    cases htype : field.type? with
    | none => simp
    | some code =>
        rw [Option.map_some, Option.getD_some, ofCode_eq_enumeration, Option.some.injEq]
        exact ⟨fun h => ⟨hlabel, h⟩, And.right⟩

/-- A type has a representation or none, unless it names an enumeration that is unknown. -/
theorem Schema.ValueType.representation_cases (registry : Registry) (message field : String)
    (type : ValueType) :
    (∃ r, type.representation registry message field = .ok r
        ∧ ∀ name, type = .enumeration name → registry.get? name ≠ none)
      ∨ ∃ name, type = .enumeration name ∧ registry.get? name = none
        ∧ type.representation registry message field
          = .error (.unresolvedEnum name message field) := by
  cases type with
  | enumeration name =>
      cases hget : registry.get? name with
      | some e =>
          refine Or.inl ⟨some (.ofEnumeration e), ?_, ?_⟩
          · rw [representation, Registry.resolve, hget]
            rfl
          · rintro _ ⟨⟩
            rw [hget]
            exact Option.some_ne_none e
      | none =>
          refine Or.inr ⟨name, rfl, hget, ?_⟩
          rw [representation, Registry.resolve, hget]
          rfl
  | _ => exact Or.inl ⟨_, rfl, fun _ h => nomatch h⟩

/-! ### The selection -/

namespace Schema.Model

open DeviceGen.Descriptor (Request)

theorem file?_ofRequest (request : Request) (name : String) :
    (ofRequest request).file? name
      = (request.files.find? (·.name = name)).map File.ofDescriptor := by
  show (request.files.map File.ofDescriptor).find? _ = _
  rw [List.find?_map]
  rfl

/-- Names are looked up in order, and the first one that is missing is reported. -/
theorem reports_select (request : Request) (names : List String) :
    Reports request.Missing Error.missingFile names ((ofRequest request).select names) := by
  induction names with
  | nil => exact .nil []
  | cons name names ih =>
      rw [select, file?_ofRequest]
      cases hfind : request.files.find? (·.name = name) with
      | none =>
          refine .error ⟨[], names, rfl, ?_, by simp⟩
          intro file hfile
          simpa using List.find?_eq_none.mp hfind file hfile
      | some file =>
          have hfound : ∀ a ∈ [name], ¬ request.Missing a := by
            intro a ha hmissing
            rw [List.mem_singleton] at ha
            subst ha
            have hname := List.find?_some hfind
            exact hmissing file (List.mem_of_find?_eq_some hfind) (by simpa using hname)
          have hhead : Reports request.Missing Error.missingFile [name] (.ok ()) := .ok hfound
          have hrest := ih.bind_ok fun files => ⟨File.ofDescriptor file :: files, rfl⟩
          exact hhead.append_bind fun _ _ => hrest

theorem select_eq (request : Request) {names : List String} {schemas : List File}
    (h : (ofRequest request).select names = .ok schemas) :
    schemas = (names.filterMap fun name => request.files.find? (·.name = name)).map
      File.ofDescriptor := by
  induction names generalizing schemas with
  | nil =>
      cases h
      rfl
  | cons name names ih =>
      rw [select, file?_ofRequest] at h
      cases hfind : request.files.find? (·.name = name) with
      | none =>
          rw [hfind] at h
          cases h
      | some file =>
          rw [hfind] at h
          cases hrest : (ofRequest request).select names with
          | error e =>
              rw [hrest] at h
              cases h
          | ok rest =>
              rw [hrest] at h
              cases h
              simp only [List.filterMap_cons, hfind, List.map_cons, ← ih hrest]

end Schema.Model

/-! ### The fields -/

section Fields

variable (request : Descriptor.Request)

/-- The registry of a request lacks the names that no file declares. -/
theorem get?_registry_eq_none (name : String) :
    (Registry.ofFiles (Schema.Model.ofRequest request).files).get? name = none
      ↔ ¬ request.Declares name := by
  rw [Registry.get?_ofFiles_eq_none]
  constructor
  · rintro h ⟨file, hfile, path, e, hdeclares, hname⟩
    refine h (Schema.File.ofDescriptor file) (List.mem_map_of_mem hfile) _
      (Schema.mem_enumsOf.mpr ⟨path, e, hdeclares, rfl⟩) ?_
    rw [Schema.name_ofDescriptor, hname]
  · intro h schema hschema found hfound hname
    obtain ⟨file, hfile, rfl⟩ := List.mem_map.mp hschema
    obtain ⟨path, e, hdeclares, rfl⟩ := Schema.mem_enumsOf.mp hfound
    rw [Schema.name_ofDescriptor] at hname
    exact h ⟨file, hfile, path, e, hdeclares, hname⟩

variable {request} {context : Context} {m : MessageDescriptor}

/-- A context that knows the enumerations of all files of a request. -/
def Context.Serves (context : Context) (request : Descriptor.Request) : Prop :=
  context.registry = Registry.ofFiles (Schema.Model.ofRequest request).files

theorem reports_ofField (hserves : context.Serves request)
    (hrole : Role.ofName m.name ≠ .unclassified) (field : FieldDescriptor) :
    Reports request.Unresolved Descriptor.Request.unresolvedAt [(m, field)]
      (Binding.ofField context.registry context.options (Role.ofName m.name)
        (Schema.Message.ofDescriptor m) (Schema.Field.ofDescriptor field)) := by
  have hclassified := Classical.not_not.mp (mt Role.ofName_eq_unclassified.mpr hrole)
  unfold Binding.ofField
  rcases ValueType.representation_cases context.registry m.name field.name
    (ValueType.ofDescriptor field) with ⟨r, hr, hknown⟩ | ⟨name, htype, hget, hr⟩
  · show Reports _ _ _ (Except.map _
      ((ValueType.ofDescriptor field).representation context.registry m.name field.name))
    rw [hr]
    refine .ok ?_
    rintro place hplace ⟨-, hsingle, henum, hundeclared⟩
    rw [List.mem_singleton.mp hplace] at hsingle henum hundeclared
    -- an unresolved field would have the type of an enumeration that is unknown
    refine hknown field.typeName
      (ValueType.ofDescriptor_eq_enumeration.mpr ⟨hsingle, henum, rfl⟩) ?_
    rw [hserves, get?_registry_eq_none]
    exact hundeclared
  · obtain ⟨hsingle, henum, rfl⟩ := ValueType.ofDescriptor_eq_enumeration.mp htype
    rw [hserves, get?_registry_eq_none] at hget
    show Reports _ _ _ (Except.map _
      ((ValueType.ofDescriptor field).representation context.registry m.name field.name))
    rw [hr]
    exact .error ⟨[], [], rfl, ⟨hclassified, hsingle, henum, hget⟩, by simp⟩

theorem reports_ofFields (hserves : context.Serves request)
    (hrole : Role.ofName m.name ≠ .unclassified) (fields : List FieldDescriptor) :
    Reports request.Unresolved Descriptor.Request.unresolvedAt (fields.map fun field => (m, field))
      (Binding.ofFields context.registry context.options (Role.ofName m.name)
        (Schema.Message.ofDescriptor m) (fields.map Schema.Field.ofDescriptor)) := by
  induction fields with
  | nil => exact .nil []
  | cons field fields ih =>
      refine (reports_ofField hserves hrole field).append_bind fun binding _ => ?_
      exact ih.bind_ok fun bindings => ⟨binding.toList ++ bindings, rfl⟩

theorem reports_bindings (hserves : context.Serves request)
    (hrole : Role.ofName m.name ≠ .unclassified) :
    Reports request.Unresolved Descriptor.Request.unresolvedAt
      (m.fields.map fun field => (m, field))
      (context.bindings (Schema.Message.ofDescriptor m)).result :=
  reports_ofFields hserves hrole m.fields

/-- A message without a role is passed over, whatever its fields are. -/
theorem reports_unclassified (hrole : Role.ofName m.name = .unclassified) {β : Type} (b : β) :
    Reports request.Unresolved Descriptor.Request.unresolvedAt
      (m.fields.map fun field => (m, field)) (.ok b) := by
  refine .ok ?_
  rintro place hplace ⟨hclassified, -, -, -⟩
  obtain ⟨field, -, rfl⟩ := List.mem_map.mp hplace
  exact Role.ofName_eq_unclassified.mp hrole hclassified

theorem Widgets.reports_part (hserves : context.Serves request) (m : MessageDescriptor) :
    Reports request.Unresolved Descriptor.Request.unresolvedAt
      (m.fields.map fun field => (m, field))
      (Widgets.part context (Schema.Message.ofDescriptor m)).result := by
  unfold Widgets.part
  split
  · next hrole => exact reports_unclassified hrole _
  · next hrole =>
      rw [Traced.result_bind]
      exact (reports_bindings hserves hrole).bind_ok fun bindings => ⟨_, rfl⟩

theorem Can.reports_message? (hserves : context.Serves request) (m : MessageDescriptor) :
    Reports request.Unresolved Descriptor.Request.unresolvedAt
      (m.fields.map fun field => (m, field))
      (Can.message? context (Schema.Message.ofDescriptor m)).result := by
  unfold Can.message?
  split
  · next hrole => exact reports_unclassified hrole _
  · next hrole =>
      rw [Traced.result_bind]
      refine (reports_bindings hserves hrole).bind_ok fun bindings => ?_
      by_cases hempty : bindings.isEmpty = true
      · rw [if_pos hempty]
        exact ⟨none, rfl⟩
      · rw [if_neg hempty]
        exact ⟨_, rfl⟩

/-- Both generators look at the same fields of a file. -/
theorem Generator.reports_files (generator : Generator) (hserves : context.Serves request)
    (file : FileDescriptor) :
    Reports request.Unresolved Descriptor.Request.unresolvedAt file.places
      (generator.files context (Schema.File.ofDescriptor file)).result := by
  cases generator with
  | widgets =>
      have hparts := Traced.reports_each (l := file.messages)
        fun m _ => Widgets.reports_part hserves m
      unfold Generator.files Widgets.file
      simp only [Traced.result_bind]
      exact (hparts.bind_ok fun parts => ⟨_, rfl⟩).bind_ok fun file => ⟨_, rfl⟩
  | can =>
      have hmessages := Traced.reports_each (l := file.messages)
        fun m _ => Can.reports_message? hserves m
      unfold Generator.files Can.files
      simp only [Traced.result_bind]
      exact hmessages.bind_ok fun messages => ⟨_, rfl⟩

end Fields

/-! ### The whole run -/

namespace Generator

theorem result_generate (generator : Generator) (request : Descriptor.Request) :
    (generator.generate request).result = (do
      let schemas ← (Schema.Model.ofRequest request).select request.selected
      let groups ← (Traced.each
        (generator.files (contextOf (Schema.Model.ofRequest request))) schemas).result
      .ok groups.flatten) := by
  unfold generate groups model
  simp only [Traced.result_bind, Traced.result_log, Traced.result_pure, Traced.result_ofExcept]
  show ((Schema.Model.ofRequest request).select request.selected >>= _) >>= _ = _
  cases (Schema.Model.ofRequest request).select request.selected with
  | error e => rfl
  | ok schemas => rfl

/-- With all selected files at hand, the first unresolved field is reported. -/
theorem reports_selected (generator : Generator) (request : Descriptor.Request)
    (schemas : List Schema.File)
    (h : (Schema.Model.ofRequest request).select request.selected = .ok schemas) :
    Reports request.Unresolved Descriptor.Request.unresolvedAt request.places
      (Traced.each (generator.files (contextOf (Schema.Model.ofRequest request)))
        schemas).result := by
  have hserves : (contextOf (Schema.Model.ofRequest request)).Serves request := rfl
  rw [Schema.Model.select_eq request h]
  exact Traced.reports_each fun file _ => generator.reports_files hserves file

/-- Generating fails for want of a file or of an enumeration, and for nothing else. -/
theorem error_of_generate {generator : Generator} {request : Descriptor.Request} {e : Error}
    (h : (generator.generate request).result = .error e) :
    (∃ name, e = .missingFile name) ∨ ∃ place, e = Descriptor.Request.unresolvedAt place := by
  rw [result_generate] at h
  have hnames := Schema.Model.reports_select request request.selected
  have hfields := fun schemas hschemas =>
    (generator.reports_selected request schemas hschemas).bind_ok
      fun groups => ⟨groups.flatten, rfl⟩
  rcases (hnames.bind_error_iff hfields e).mp h with ⟨name, -, he⟩ | ⟨-, place, -, he⟩
  · exact .inl ⟨name, he⟩
  · exact .inr ⟨place, he⟩

/-- **Which requests fail, and how.**  The first selected name without a file is reported;
if there is none, the first field with an unresolved enumeration; all else succeeds. -/
theorem generate_fails_iff (generator : Generator) (request : Descriptor.Request) :
    (∀ e, (generator.generate request).result = .error e ↔
        (∃ name, IsFirst request.Missing request.selected name ∧ e = .missingFile name)
        ∨ ((∀ name ∈ request.selected, ¬ request.Missing name)
          ∧ ∃ place, IsFirst request.Unresolved request.places place
            ∧ e = .unresolvedEnum place.2.typeName place.1.name place.2.name))
      ∧ ((∃ files, (generator.generate request).result = .ok files) ↔
        (∀ name ∈ request.selected, ¬ request.Missing name)
          ∧ ∀ place ∈ request.places, ¬ request.Unresolved place)
      ∧ ∀ name, (Error.missingFile name).message = "Schema error: The file " ++ Text.quote name
          ++ " is selected for generation but its descriptor was not supplied" := by
  rw [result_generate]
  have hnames := Schema.Model.reports_select request request.selected
  have hfields := fun schemas hschemas =>
    (generator.reports_selected request schemas hschemas).bind_ok
      fun groups => ⟨groups.flatten, rfl⟩
  exact ⟨hnames.bind_error_iff hfields, hnames.bind_ok_iff hfields, fun _ => rfl⟩

end Generator

end DeviceGen
