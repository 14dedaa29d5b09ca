/-
What the log of a run tells.

A run that has read its request reports the files of the schema first, each with the number of its
messages and of its enumerations, however deep these stand.  Only a selection that cannot be found
keeps it from reporting anything else.  The last report of a run that ends well says so, and no
other report does; so the log shows how the run has ended, and how many files it has made.

Reports are known by their level and their text.  Everything between the files and the end is about
the selection, the options or single messages (`exists_events_generate`).
-/
import DeviceGen.Proofs.Generator.Events
import DeviceGen.Proofs.Generator.Names
import DeviceGen.Proofs.Response.RoundTrip
import DeviceGen.Proofs.Schema.Places
import Mathlib.Data.Set.Card

namespace DeviceGen

/-! ### Kinds of reports -/

namespace Event

/-- The report that a file of the request has become a part of the schema. -/
def SaysBuilt (e : Event) : Prop := e.level = .debug ∧ e.text = "built file schema"

/-- The report that a run has ended well. -/
def SaysFinished (e : Event) : Prop := e.level = .info ∧ e.text = "generation finished"

theorem saysBuilt_iff {e : Event} :
    e.SaysBuilt ↔ ∃ file messages enums, e = .fileBuilt file messages enums := by
  cases e <;> simp [SaysBuilt, level, text]

theorem saysFinished_iff {e : Event} :
    e.SaysFinished ↔ ∃ generator inputs outputs, e = .finished generator inputs outputs := by
  cases e <;> simp [SaysFinished, level, text]

/-- Neither the report of a file nor that of the end. -/
def IsBetween (e : Event) : Prop := ¬ e.SaysBuilt ∧ ¬ e.SaysFinished

theorem isBetween_iff {e : Event} :
    e.IsBetween ↔ (∀ file messages enums, e ≠ .fileBuilt file messages enums)
      ∧ ∀ generator inputs outputs, e ≠ .finished generator inputs outputs := by
  simp only [IsBetween, saysBuilt_iff, saysFinished_iff, not_exists, ne_eq]

theorem AboutMessage.isBetween {e : Event} (h : e.AboutMessage) : e.IsBetween := by
  cases h <;> simp [isBetween_iff]

end Event

/-! ### Files of the schema -/

open Descriptor (FileDescriptor Place placesOf)

/-- The number of enumerations in a file, at whatever depth they stand inside of messages. -/
noncomputable def Descriptor.FileDescriptor.enumCount (file : FileDescriptor) : Nat :=
  {place : Place | (file.enumAt? place).isSome}.ncard

/-- The model lists each enumeration of a file once. -/
theorem Schema.length_enumsOf (file : FileDescriptor) : (enumsOf file).length = file.enumCount := by
  have hplaces : {place : Place | (file.enumAt? place).isSome}
      = (placesOf file.enums file.messages).toFinset := by
    ext place
    simp only [List.coe_toFinset, Set.mem_ofPred_eq, Place.mem_placesOf]
    rfl
  have hdistinct : (placesOf file.enums file.messages).Nodup :=
    (Place.pairwise_placesOf _ _).imp Place.Before.ne
  have hlength := congrArg List.length (map_some_enumsOf file)
  rw [List.length_map, List.length_map] at hlength
  rw [FileDescriptor.enumCount, hplaces, Set.ncard_coe_finset,
    List.toFinset_card_of_nodup hdistinct, hlength]

/-- The report of a file. -/
noncomputable def Event.ofFile (file : FileDescriptor) : Event :=
  .fileBuilt file.name file.messages.length file.enumCount

theorem Generator.builtEvent_ofDescriptor (file : FileDescriptor) :
    builtEvent (Schema.File.ofDescriptor file) = Event.ofFile file := by
  have hmessages : (Schema.File.ofDescriptor file).messages.length = file.messages.length :=
    List.length_map _
  rw [builtEvent, hmessages, Event.ofFile, ← Schema.length_enumsOf]
  rfl

namespace Generator

/-! ### Reports of a run -/

/-- The report at the end of a run, if it ends well. -/
def ending (generator : Generator) (request : Descriptor.Request) :
    Except Error (List Output.File) → List Event
  | .error _ => []
  | .ok outputs => [.finished generator.name request.selected.length outputs.length]

theorem isBetween_warnings (model : Schema.Model) : ∀ e ∈ warnings model, e.IsBetween := by
  intro e he
  rcases List.mem_append.mp he with he | he
  · obtain ⟨_, -, rfl⟩ := List.mem_map.mp he
    simp [Event.isBetween_iff]
  · obtain ⟨_, -, rfl⟩ := List.mem_map.mp he
    simp [Event.isBetween_iff]

/-- The selection is found iff none of its names is missing. -/
theorem exists_selection_iff (request : Descriptor.Request) :
    (∃ schemas, (Schema.Model.ofRequest request).selection = .ok schemas)
      ↔ ∀ name ∈ request.selected, ¬ request.Missing name :=
  (Schema.Model.reports_select request request.selected).ok_iff

/-- A run reports the files, then other things, and then its end if it ends well.  There is nothing
to report behind the files iff a selected file is missing. -/
theorem exists_events_generate (generator : Generator) (request : Descriptor.Request) :
    ∃ between, (generator.generate request).events = request.files.map Event.ofFile
        ++ (between ++ generator.ending request (generator.generate request).result)
      ∧ (∀ e ∈ between, e.IsBetween)
      ∧ (between ++ generator.ending request (generator.generate request).result = []
        ↔ ∃ name ∈ request.selected, request.Missing name) := by
  have hfiles : (Schema.Model.ofRequest request).files.map builtEvent
      = request.files.map Event.ofFile := by
    show (request.files.map Schema.File.ofDescriptor).map builtEvent = _
    rw [List.map_map]
    exact List.map_congr_left fun file _ => builtEvent_ofDescriptor file
  have hmissing : (∃ name ∈ request.selected, request.Missing name)
      ↔ ¬ ∃ schemas, (Schema.Model.ofRequest request).selection = .ok schemas := by
    rw [exists_selection_iff]
    simp
  rw [generator.events_generate, hfiles, hmissing]
  cases hselect : (Schema.Model.ofRequest request).selection with
  | error e =>
      have hresult : (generator.generate request).result = .error e := by
        rw [generator.result_generate]
        exact congrArg (· >>= _) hselect
      rw [hresult]
      exact ⟨[], rfl, (fun _ he => nomatch he), by simp [ending]⟩
  | ok schemas =>
      let context := contextOf (Schema.Model.ofRequest request)
      have hresult : (generator.generate request).result
          = (Traced.each (generator.files context) schemas).result.map List.flatten := by
        rw [generator.result_generate_eq,
          show (Schema.Model.ofRequest request).select request.selected = .ok schemas from hselect]
        rfl
      refine ⟨warnings (Schema.Model.ofRequest request)
        ++ [.enumsCollected context.registry.size context.options]
        ++ (Traced.each (generator.files context) schemas).events, ?_, ?_, by simp⟩
      · rw [hresult]
        dsimp only [context]
        cases (Traced.each _ schemas).result <;> rfl
      · intro e he
        rw [List.mem_append, List.mem_append, List.mem_singleton] at he
        rcases he with (he | rfl) | he
        · exact isBetween_warnings _ e he
        · simp [Event.isBetween_iff]
        · exact (Traced.ReportsOnly.each (@generator.reportsOnly_files context) schemas e
            he).isBetween

/-! ### Numbers of files -/

/-- How many files are made for one file of the selection. -/
def filesPerInput : Generator → Nat
  | widgets => 1
  | can => 2

theorem length_fileNames (generator : Generator) (selected : Nat) (name : String) :
    (generator.fileNames selected name).length = generator.filesPerInput := by
  cases generator <;> rfl

theorem length_of_generate {generator : Generator} {request : Descriptor.Request}
    {files : List Output.File} (h : (generator.generate request).result = .ok files) :
    files.length = generator.filesPerInput * request.selected.length := by
  have hlength := congrArg List.length (map_name_generate h)
  simpa [List.length_flatMap, length_fileNames, Nat.mul_comm] using hlength

/-! ### The log and the result -/

theorem not_saysFinished_ofFile (file : Descriptor.FileDescriptor) :
    ¬ (Event.ofFile file).SaysFinished := by
  simp [Event.ofFile, Event.saysFinished_iff]

theorem not_saysBuilt_of_mem_ending {generator : Generator} {request : Descriptor.Request}
    {result : Except Error (List Output.File)} :
    ∀ e ∈ generator.ending request result, ¬ e.SaysBuilt := by
  intro e he
  cases result with
  | error _ => cases he
  | ok outputs =>
      rw [List.mem_singleton.mp he]
      simp [Event.saysBuilt_iff]

/-- A run that has made its files says so at last, and only then. -/
theorem exists_events_of_generate_ok {generator : Generator} {request : Descriptor.Request}
    {files : List Output.File} (h : (generator.generate request).result = .ok files) :
    ∃ before, (generator.generate request).events
        = before ++ [.finished generator.name request.selected.length files.length]
      ∧ ∀ e ∈ before, ¬ e.SaysFinished := by
  obtain ⟨between, hevents, hbetween, -⟩ := generator.exists_events_generate request
  refine ⟨request.files.map Event.ofFile ++ between, ?_, ?_⟩
  · rw [hevents, h, List.append_assoc]
    rfl
  · intro e he
    rcases List.mem_append.mp he with he | he
    · obtain ⟨file, -, rfl⟩ := List.mem_map.mp he
      exact not_saysFinished_ofFile file
    · exact (hbetween e he).2

theorem exists_saysFinished_iff (generator : Generator) (request : Descriptor.Request) :
    (∃ e ∈ (generator.generate request).events, e.SaysFinished)
      ↔ ∃ files, (generator.generate request).result = .ok files := by
  constructor
  · rintro ⟨e, he, hfinished⟩
    obtain ⟨between, hevents, hbetween, -⟩ := generator.exists_events_generate request
    rw [hevents, List.mem_append, List.mem_append] at he
    rcases he with he | he | he
    · obtain ⟨file, -, rfl⟩ := List.mem_map.mp he
      exact absurd hfinished (not_saysFinished_ofFile file)
    · exact absurd hfinished (hbetween e he).2
    · cases hresult : (generator.generate request).result with
      | error _ =>
          rw [hresult] at he
          cases he
      | ok files => exact ⟨files, rfl⟩
  · rintro ⟨files, hfiles⟩
    obtain ⟨before, hevents, -⟩ := exists_events_of_generate_ok hfiles
    rw [hevents]
    exact ⟨_, List.mem_append_right _ (List.mem_singleton_self _), rfl, rfl⟩

/-- The files of a request are reported once and first of all. -/
theorem exists_events_after_files (generator : Generator) (request : Descriptor.Request) :
    ∃ later, (generator.generate request).events = request.files.map Event.ofFile ++ later
      ∧ (∀ e ∈ later, ¬ e.SaysBuilt)
      ∧ (later = [] ↔ ∃ name ∈ request.selected, request.Missing name) := by
  obtain ⟨between, hevents, hbetween, hmissing⟩ := generator.exists_events_generate request
  refine ⟨_, hevents, ?_, hmissing⟩
  intro e he
  rcases List.mem_append.mp he with he | he
  · exact (hbetween e he).1
  · exact not_saysBuilt_of_mem_ending e he

/-- **The log tells how a run ends.**  A run says that it has finished iff there is a response; it
says so once and at the very end, with the numbers of selected and of generated files.  Of an
accepted request it reports each file once, first of all and in order, and nothing follows iff a
selected file is missing.  Without a request it reports nothing. -/
theorem log_tells_result (generator : Generator) (bytes : List UInt8) :
    ((∃ e ∈ (generator.run bytes).events, e.SaysFinished)
        ↔ ∃ response, (generator.run bytes).result = .ok response)
      ∧ (∀ response, (generator.run bytes).result = .ok response →
          ∃ request files before, Request.decode bytes = .ok request
            ∧ (generator.generate request).result = .ok files
            ∧ response = Response.encode files
            ∧ (response.length < 2 ^ 64 → Response.decode response = .ok files)
            ∧ (generator.run bytes).events = before
                ++ [.finished generator.name request.selected.length files.length]
            ∧ (∀ e ∈ before, ¬ e.SaysFinished)
            ∧ files.length = generator.filesPerInput * request.selected.length)
      ∧ (∀ request, Request.decode bytes = .ok request →
          ∃ later, (generator.run bytes).events = request.files.map Event.ofFile ++ later
            ∧ (∀ e ∈ later, ¬ e.SaysBuilt)
            ∧ (later = [] ↔ ∃ name ∈ request.selected, request.Missing name))
      ∧ ∀ e, Request.decode bytes = .error e → (generator.run bytes).events = [] := by
  have hrun {request : Descriptor.Request} (hrequest : Request.decode bytes = .ok request) :
      (generator.run bytes).events = (generator.generate request).events := by
    rw [events_run, hrequest]
  refine ⟨⟨?said, ?well⟩, ?last, ?first, ?refused⟩
  case said =>
    rintro ⟨e, he, hfinished⟩
    cases hrequest : Request.decode bytes with
    | error _ =>
        rw [events_run, hrequest] at he
        cases he
    | ok request =>
        rw [hrun hrequest] at he
        obtain ⟨files, hfiles⟩ := (generator.exists_saysFinished_iff request).mp ⟨e, he, hfinished⟩
        refine ⟨Response.encode files, ?_⟩
        rw [result_run, hrequest]
        show (generator.generate request).result.map Response.encode = _
        rw [hfiles]
        rfl
  case well =>
    rintro ⟨response, hresponse⟩
    obtain ⟨request, files, hrequest, hfiles, -⟩ := of_run_ok hresponse
    rw [hrun hrequest]
    exact (generator.exists_saysFinished_iff request).mpr ⟨files, hfiles⟩
  case last =>
    intro response hresponse
    obtain ⟨request, files, hrequest, hfiles, rfl⟩ := of_run_ok hresponse
    obtain ⟨before, hevents, hbefore⟩ := exists_events_of_generate_ok hfiles
    exact ⟨request, files, before, hrequest, hfiles, rfl, Response.decode_encode_of_short,
      by rw [hrun hrequest, hevents], hbefore, length_of_generate hfiles⟩
  case first =>
    intro request hrequest
    rw [hrun hrequest]
    exact generator.exists_events_after_files request
  case refused =>
    intro e he
    rw [events_run, he]

/-- A request for the file a, in which one enumeration stands inside of a message and one does
not. -/
def nestedRequest : List UInt8 :=
  [0x0a, 1, 0x61, 0x7a, 18, 0x0a, 1, 0x61, 0x22, 8, 0x0a, 1, 0x4d, 0x22, 3, 0x0a, 1, 0x46,
    0x2a, 3, 0x0a, 1, 0x45]

theorem log_tells_result_nested :
    (can.run nestedRequest).events = [.fileBuilt "a" 1 2,
        .enumsCollected 2 (Options.ofParameter none), .finished "can" 1 2]
      ∧ ∃ response, (can.run nestedRequest).result = .ok response := by
  have hevents : (can.run nestedRequest).events = [.fileBuilt "a" 1 2,
      .enumsCollected 2 (Options.ofParameter none), .finished "can" 1 2] := by decide +kernel
  refine ⟨hevents, (log_tells_result can nestedRequest).1.mp ⟨.finished "can" 1 2, ?_, rfl, rfl⟩⟩
  rw [hevents]
  simp

end Generator

end DeviceGen
