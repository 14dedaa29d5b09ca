/-
What a run reports on its way.

A run reports the files of its model and then, if all selected files are there, what is wrong with
the model and yet no error, and how many enumerations it has collected.  While it generates files
it only reports messages that nothing is generated for (`reportsOnly_files`), and at last that it
is done.  So the events of a run are known but for those about messages (`events_generate`).
-/
import DeviceGen.Generator
import DeviceGen.Proofs.FirstFault

namespace DeviceGen

/-! ### Events of steps -/

namespace Traced

variable {α β : Type}

@[simp] theorem events_pure (a : α) : (pure a : Traced α).events = [] := rfl

@[simp] theorem events_ofExcept (x : Except Error α) : (ofExcept x).events = [] := rfl

@[simp] theorem events_log (events : List Event) : (log events).events = events := rfl

/-- A step that is not made reports nothing. -/
theorem events_bind (x : Traced α) (f : α → Traced β) :
    (x >>= f).events = x.events ++ match x.result with
      | .ok a => (f a).events
      | .error _ => [] := by
  show (andThen x f).events = _
  unfold andThen
  cases x.result with
  | error e => exact (List.append_nil _).symm
  | ok a => rfl

/-- All events of a run are of one kind. -/
def ReportsOnly (P : Event → Prop) (x : Traced α) : Prop := ∀ e ∈ x.events, P e

namespace ReportsOnly

variable {P : Event → Prop}

theorem pure (a : α) : ReportsOnly P (pure a : Traced α) := fun _ he => nomatch he

theorem ofExcept (x : Except Error α) : ReportsOnly P (ofExcept x) := fun _ he => nomatch he

theorem log {events : List Event} (h : ∀ e ∈ events, P e) : ReportsOnly P (log events) := h

theorem bind {x : Traced α} {f : α → Traced β} (hx : ReportsOnly P x)
    (hf : ∀ a, ReportsOnly P (f a)) : ReportsOnly P (x >>= f) := by
  intro e he
  rw [events_bind, List.mem_append] at he
  rcases he with he | he
  · exact hx e he
  · cases hresult : x.result with
    | error e' =>
        rw [hresult] at he
        cases he
    | ok a =>
        rw [hresult] at he
        exact hf a e he

/-- What a loop reports its turns have reported. -/
theorem each {f : α → Traced β} (hf : ∀ a, ReportsOnly P (f a)) (l : List α) :
    ReportsOnly P (each f l) := by
  induction l with
  | nil => exact .pure []
  | cons a l ih => exact (hf a).bind fun b => ih.bind fun bs => .pure (b :: bs)

end ReportsOnly

end Traced

/-! ### Events about messages -/

/-- The event is that nothing is generated for a message. -/
inductive Event.AboutMessage : Event → Prop
  | unclassified (message : String) : AboutMessage (.unclassifiedMessage message)
  | nothingToPack (message : String) : AboutMessage (.nothingToPack message)

section Messages

open Event (AboutMessage)

variable {context : Context}

theorem Widgets.reportsOnly_part (message : Schema.Message) :
    (part context message).ReportsOnly AboutMessage := by
  unfold part
  split
  · have hskipped : (Traced.log [.unclassifiedMessage message.name]).ReportsOnly AboutMessage :=
      .log (by simpa using AboutMessage.unclassified message.name)
    exact hskipped.bind fun _ => .pure _
  · exact (Traced.ReportsOnly.ofExcept _).bind fun _ => .pure _

theorem Can.reportsOnly_message? (message : Schema.Message) :
    (message? context message).ReportsOnly AboutMessage := by
  unfold message?
  split
  · exact .pure none
  · refine (Traced.ReportsOnly.ofExcept _).bind fun bindings => ?_
    by_cases hempty : bindings.isEmpty = true
    · have hskipped : (Traced.log [.nothingToPack message.name]).ReportsOnly AboutMessage :=
        .log (by simpa using AboutMessage.nothingToPack message.name)
      rw [if_pos hempty]
      exact hskipped.bind fun _ => .pure none
    · rw [if_neg hempty]
      exact .pure _

/-- While files are generated, there are reports on messages only. -/
theorem Generator.reportsOnly_files (generator : Generator) (schema : Schema.File) :
    (generator.files context schema).ReportsOnly AboutMessage := by
  cases generator with
  | widgets =>
      have hparts := Traced.ReportsOnly.each (@Widgets.reportsOnly_part context) schema.messages
      exact (hparts.bind fun _ => .pure _).bind fun _ => .pure _
  | can =>
      have hmessages := Traced.ReportsOnly.each (@Can.reportsOnly_message? context) schema.messages
      exact hmessages.bind fun _ => .pure _

end Messages

/-! ### Events of runs -/

/-- **The events of a run, in order.** -/
theorem Generator.events_generate (generator : Generator) (request : Descriptor.Request) :
    let model := Schema.Model.ofRequest request
    let context := contextOf model
    (generator.generate request).events
      = model.files.map builtEvent ++ match model.selection with
        | .error _ => []
        | .ok schemas =>
          warnings model ++ [.enumsCollected context.registry.size context.options]
            ++ (Traced.each (generator.files context) schemas).events
            ++ match (Traced.each (generator.files context) schemas).result with
              | .error _ => []
              | .ok groups =>
                [.finished generator.name request.selected.length groups.flatten.length] := by
  intro model context
  have hmodel : (Generator.model request).events = model.files.map builtEvent := by
    unfold Generator.model
    rw [Traced.events_bind]
    exact List.append_nil _
  have hgroups : (generator.groups request).result = (do
      let schemas ← model.selection
      (Traced.each (generator.files context) schemas).result) := by
    unfold groups
    simp only [Traced.result_bind, Traced.result_ofExcept, Traced.result_log]
    rfl
  have hevents : (generator.groups request).events
      = model.files.map builtEvent ++ match model.selection with
        | .error _ => []
        | .ok schemas =>
          warnings model ++ [.enumsCollected context.registry.size context.options]
            ++ (Traced.each (generator.files context) schemas).events := by
    unfold groups
    rw [Traced.events_bind, hmodel]
    show _ ++ (Traced.ofExcept model.selection >>= fun _ => _).events = _
    rw [Traced.events_bind]
    cases model.selection with
    | error e => rfl
    | ok schemas =>
        show _ ++ ([] ++ (Traced.log _ >>= fun _ => _).events) = _
        rw [Traced.events_bind]
        rfl
  unfold generate
  rw [Traced.events_bind, hevents, hgroups, List.append_assoc]
  cases model.selection with
  | error e => rfl
  | ok schemas =>
      have hresult : (Except.ok schemas >>= fun schemas =>
          (Traced.each (generator.files context) schemas).result)
            = (Traced.each (generator.files context) schemas).result := rfl
      rw [hresult]
      dsimp only
      cases (Traced.each (generator.files context) schemas).result with
      | error e => rfl
      | ok groups => rfl

/-- Reading a request and writing a response report nothing. -/
theorem Generator.events_run (generator : Generator) (bytes : List UInt8) :
    (generator.run bytes).events = match Request.decode bytes with
      | .error _ => []
      | .ok request => (generator.generate request).events := by
  unfold run
  rw [Traced.events_bind, Traced.events_ofExcept, List.nil_append, Traced.result_ofExcept]
  cases Request.decode bytes with
  | error e => rfl
  | ok request =>
      show (generator.generate request >>= _).events = _
      rw [Traced.events_bind]
      cases (generator.generate request).result <;> exact List.append_nil _

end DeviceGen
