/-
Which elements of a page have identifiers of their own.

All widgets of a file can stand in one page, where an identifier has to mean one element.  The
identifier of an element is the name of a message, a dash and the number of a field.  Where names
of messages have no dash, both can be read off it, even if the number is negative and has a dash
of its own.  So elements are told apart if messages are told apart by their names, and the fields
of each message by their numbers (`ids_distinct`).
-/
import Mathlib
import DeviceGen.Proofs.Generator.Contents
import DeviceGen.Proofs.Text.Segment
import DeviceGen.Proofs.Widgets.Elements

namespace DeviceGen

open DeviceGen.Text (unlines)

/-! ### Bindings of a file -/

/-- The messages of a file that have a role. -/
def Schema.File.classified (schema : Schema.File) : List Schema.Message :=
  schema.messages.filter Schema.Message.isClassified

namespace Context

/-- The bindings of a message, or none if it cannot be bound. -/
def bindingsOf (context : Context) (message : Schema.Message) : List Binding :=
  (context.bindings message).result.toOption.getD []

/-- The bindings of all messages of a file that have a role, in order. -/
def bindingsIn (context : Context) (schema : Schema.File) : List Binding :=
  schema.classified.flatMap context.bindingsOf

variable {context : Context} {message : Schema.Message}

theorem bindingsOf_of_bind {m : Can.Message} (h : context.bind message = .ok m) :
    context.bindingsOf message = m.bindings := by
  obtain ⟨bindings, hbindings, rfl⟩ := except_map_eq_ok.mp h
  unfold bindingsOf Context.bindings
  rw [Traced.result_ofExcept, hbindings]
  rfl

theorem bindingsIn_of_bound {schema : Schema.File} {ms : List Can.Message}
    (h : context.bound schema.messages = .ok ms) :
    context.bindingsIn schema = ms.flatMap Can.Message.bindings := by
  have hbindings : schema.classified.map context.bindingsOf = ms.map Can.Message.bindings :=
    map_eq_of_forall₂ (forall₂_bound h) fun _ _ hbind => bindingsOf_of_bind hbind.2
  rw [bindingsIn, List.flatMap_def, hbindings, ← List.flatMap_def]

end Context

/-! ### Identifiers -/

namespace Binding

/-- The name in an identifier ends at the first dash. -/
theorem takeWhile_idOf {message : String} (h : '-' ∉ message.toList) (number : Int32) :
    (idOf message number).toList.takeWhile (· ≠ '-') = message.toList := by
  have htext : (idOf message number).toList
      = message.toList ++ '-' :: (toString number.toInt).toList := by
    simp [idOf, String.toList_append]
  rw [htext, Text.takeWhile_append_separator h]

/-- **Identifiers say which field is meant.** -/
theorem idOf_inj {message other : String} {number number' : Int32} (hmessage : '-' ∉ message.toList)
    (hother : '-' ∉ other.toList) :
    idOf message number = idOf other number' ↔ message = other ∧ number = number' := by
  constructor
  · intro h
    have hnames := congrArg (fun id => id.toList.takeWhile (· ≠ '-')) h
    simp only [takeWhile_idOf hmessage, takeWhile_idOf hother, String.toList_inj] at hnames
    subst hnames
    unfold idOf at h
    rw [String.append_right_inj, Int.toString_eq_repr, Int.toString_eq_repr, Int.repr_inj,
      Int32.toInt_inj] at h
    exact ⟨rfl, h⟩
  · rintro ⟨rfl, rfl⟩
    rfl

end Binding

section Distinct

variable {context : Context} {message other : Schema.Message}

/-- The bindings of a message have the identifiers of some of its fields, in order. -/
theorem Context.sublist_ids (context : Context) (message : Schema.Message) :
    ((context.bindingsOf message).map (·.id)).Sublist
      (message.fields.map fun field => Binding.idOf message.name field.number) := by
  unfold Context.bindingsOf Context.bindings
  rw [Traced.result_ofExcept]
  cases hbindings : Binding.ofMessage context.registry context.options message.role message with
  | error e => exact List.nil_sublist _
  | ok bindings =>
      show (bindings.map (·.id)).Sublist _
      rw [Binding.map_ofMessage (g := fun field => Binding.idOf message.name field.number)
        hbindings fun _ _ => rfl]
      exact List.filter_sublist.map _

/-- Fields with different numbers have different identifiers in their message. -/
theorem Context.nodup_ids (hdash : '-' ∉ message.name.toList)
    (hnumbers : (message.fields.map (·.number)).Nodup) :
    ((context.bindingsOf message).map (·.id)).Nodup := by
  refine List.Nodup.sublist (context.sublist_ids message) ?_
  have hids : (message.fields.map fun field => Binding.idOf message.name field.number)
      = (message.fields.map (·.number)).map (Binding.idOf message.name) := by
    rw [List.map_map]
    rfl
  rw [hids]
  refine hnumbers.map fun number number' hsame => ?_
  exact ((Binding.idOf_inj hdash hdash).mp hsame).2

/-- Messages with different names have no identifier in common. -/
theorem Context.disjoint_ids (hdash : '-' ∉ message.name.toList)
    (hdash' : '-' ∉ other.name.toList) (hnames : message.name ≠ other.name) :
    ((context.bindingsOf message).map (·.id)).Disjoint
      ((context.bindingsOf other).map (·.id)) := by
  intro id hid hid'
  obtain ⟨field, -, hfield⟩ := List.mem_map.mp ((context.sublist_ids message).mem hid)
  obtain ⟨field', -, hfield'⟩ := List.mem_map.mp ((context.sublist_ids other).mem hid')
  exact hnames ((Binding.idOf_inj hdash hdash').mp (hfield.trans hfield'.symm)).1

end Distinct

namespace Widgets

/-! ### Elements of a file -/

/-- A widget by its parts: the name of its message, the entries of its state, and its elements. -/
inductive Widget where
  | form (message : String) (entries : List Entry) (elements : List FormElement)
  | panel (message : String) (entries : List Entry) (elements : List PanelElement)

/-- The text of a widget. -/
def Widget.text : Widget → String
  | form message entries elements =>
    unlines ((formFrame message entries.isEmpty).around (entries.map Entry.line)
      (elements.flatMap (FormElement.lines message)))
  | panel message entries elements =>
    unlines ((panelFrame message entries.isEmpty).around (entries.map Entry.line)
      (elements.flatMap (PanelElement.lines message)))

/-- The identifiers of the elements of a widget, in order. -/
def Widget.ids : Widget → List String
  | form _ _ elements => elements.map (·.id)
  | panel _ _ elements => elements.map (·.id)

variable {context : Context} {message : Schema.Message} {bindings : List Binding}

theorem IsForm.exists_widget {name text : String} (h : IsForm name bindings text) :
    ∃ widget : Widget, widget.text = text ∧ widget.ids = bindings.map (·.id) := by
  obtain ⟨entries, elements, rfl, hentries, helements⟩ := h
  refine ⟨.form name entries elements, ?_, ?_⟩
  · have hempty : entries.isEmpty = bindings.isEmpty := by cases hentries <;> rfl
    rw [Widget.text, hempty]
  · exact map_eq_of_forall₂ helements fun _ _ hedits => hedits.id

theorem IsPanel.exists_widget {name text : String} (h : IsPanel name bindings text) :
    ∃ widget : Widget, widget.text = text ∧ widget.ids = bindings.map (·.id) := by
  obtain ⟨entries, elements, rfl, hentries, helements⟩ := h
  refine ⟨.panel name entries elements, ?_, ?_⟩
  · have hempty : entries.isEmpty = bindings.isEmpty := by cases hentries <;> rfl
    rw [Widget.text, hempty]
  · exact map_eq_of_forall₂ helements fun _ _ hshows => hshows.id

/-- A bound message becomes a widget whose elements have the identifiers of its bindings. -/
theorem exists_widget {m : Can.Message} (hclassified : message.isClassified = true)
    (h : context.bind message = .ok m) :
    ∃ widget : Widget, widget.text = (render m.name m.role m.bindings).text
      ∧ widget.ids = m.bindings.map (·.id) := by
  obtain ⟨bindings, hbindings, rfl⟩ := except_map_eq_ok.mp h
  have hcoherent := Binding.isCoherent_of_mem hbindings
  cases hrole : message.role with
  | outgoing =>
      rw [hrole] at hcoherent
      exact (isForm_formLines hcoherent message.name).exists_widget
  | incoming =>
      rw [hrole] at hcoherent
      exact (isPanel_panelLines hcoherent message.name).exists_widget
  | unclassified => simp [Schema.Message.isClassified, hrole] at hclassified

/-- Bound messages become widgets, one after the other. -/
theorem exists_widgets {messages : List Schema.Message} {ms : List Can.Message}
    (h : context.bound messages = .ok ms) :
    ∃ widgets : List Widget,
      widgets.map Widget.text = ms.map (fun m => (render m.name m.role m.bindings).text)
        ∧ widgets.flatMap Widget.ids = (ms.flatMap Can.Message.bindings).map (·.id) := by
  replace h := Context.forall₂_bound h
  generalize messages.filter Schema.Message.isClassified = classified at h
  induction h with
  | nil => exact ⟨[], rfl, rfl⟩
  | @cons message m classified ms hbind _ ih =>
      obtain ⟨widget, htext, hids⟩ := exists_widget hbind.1 hbind.2
      obtain ⟨widgets, htexts, hothers⟩ := ih
      refine ⟨widget :: widgets, ?_, ?_⟩
      · rw [List.map_cons, List.map_cons, htext, htexts]
      · rw [List.flatMap_cons, List.flatMap_cons, List.map_append, hids, hothers]

/-- **Elements of a file of widgets have different identifiers.**  If the messages that have a role
have different names without dashes, and the fields of each have different numbers, then all
bindings of all these messages have different identifiers; and these are the identifiers of the
elements of the widgets in the file, if there is nothing wrong with it. -/
theorem ids_distinct (context : Context) {schema : Schema.File}
    (hnames : (schema.classified.map (·.name)).Nodup)
    (hdash : ∀ message ∈ schema.classified, '-' ∉ message.name.toList)
    (hnumbers : ∀ message ∈ schema.classified, (message.fields.map (·.number)).Nodup) :
    ((context.bindingsIn schema).map (·.id)).Nodup
      ∧ ∀ output, (file context schema).result = .ok output →
        ∃ widgets : List Widget,
          output.content = preamble context.options ++ String.join (widgets.map Widget.text)
            ∧ widgets.flatMap Widget.ids = (context.bindingsIn schema).map (·.id) := by
  constructor
  · rw [Context.bindingsIn, List.map_flatMap, List.nodup_flatMap]
    refine ⟨fun message hmessage => ?_, ?_⟩
    · exact Context.nodup_ids (hdash message hmessage) (hnumbers message hmessage)
    · refine (List.pairwise_map.mp hnames).imp_of_mem fun hmessage hother hne => ?_
      exact Context.disjoint_ids (hdash _ hmessage) (hdash _ hother) hne
  · intro output houtput
    rw [result_file] at houtput
    obtain ⟨ms, hbound, rfl⟩ := except_map_eq_ok.mp houtput
    obtain ⟨widgets, htexts, hids⟩ := exists_widgets hbound
    refine ⟨widgets, ?_, ?_⟩
    · rw [htexts]
      show preamble context.options ++ String.join _ ++ "" = _
      rw [String.append_empty, List.map_map]
      rfl
    · rw [hids, Context.bindingsIn_of_bound hbound]

/-- A file of a message with a negative field number, one without a role, and another one. -/
def numberedFile : Schema.File where
  name := "pump.proto"
  package := none
  messages := [
    ⟨"PumpCtl", [⟨"speed", 1, .double⟩, ⟨"notes", 2, .other⟩, ⟨"trim", -1, .int32⟩]⟩,
    ⟨"Pump-1", [⟨"first", 1, .bool⟩, ⟨"second", 1, .bool⟩]⟩,
    ⟨"PumpTlm", [⟨"flow", 1, .float⟩, ⟨"is_on", 11, .bool⟩]⟩]
  enums := []

/-- The enumerations and options of no request, for a single file. -/
def plainContext : Context := ⟨.empty, .default, 1⟩

theorem ids_distinct_numbered :
    (∀ message ∈ numberedFile.classified, '-' ∉ message.name.toList)
      ∧ (plainContext.bindingsIn numberedFile).map (·.id)
        = ["PumpCtl-1", "PumpCtl--1", "PumpTlm-1", "PumpTlm-11"]
      ∧ ((plainContext.bindingsIn numberedFile).map (·.id)).Nodup
      ∧ ∃ output, ∃ widgets : List Widget, (file plainContext numberedFile).result = .ok output
        ∧ output.content = preamble .default ++ String.join (widgets.map Widget.text)
        ∧ widgets.flatMap Widget.ids = (plainContext.bindingsIn numberedFile).map (·.id) := by
  have hdash : ∀ message ∈ numberedFile.classified, '-' ∉ message.name.toList := by decide +kernel
  obtain ⟨hnodup, hwidgets⟩ :=
    ids_distinct plainContext (by decide +kernel) hdash (by decide +kernel)
  obtain ⟨output, houtput⟩ : ∃ output, (file plainContext numberedFile).result = .ok output :=
    exists_ok_of_isSome (by decide +kernel)
  obtain ⟨widgets, hcontent, hids⟩ := hwidgets output houtput
  exact ⟨hdash, by decide +kernel, hnodup, output, widgets, houtput, hcontent, hids⟩

end Widgets

end DeviceGen
