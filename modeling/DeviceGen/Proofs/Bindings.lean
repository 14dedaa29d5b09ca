/-
How the fields of a message are bound.

Fields are bound one by one, in order.  Whether a field has a binding is said by its type alone:
it has one iff the type has single values.  A binding is made of its field, the name of its
message and a representation, so the bindings of a message correspond to its scalar fields.
-/
import Mathlib.Data.List.Forall2
import DeviceGen.Binding

namespace DeviceGen

open DeviceGen.Schema (Registry Role ValueType)

/-- Whether the values of a type are single numbers or truth values. -/
def Schema.ValueType.isScalar : ValueType → Bool
  | .message | .other => false
  | _ => true

/-- The fields of a message with single values, in order. -/
def Schema.Message.scalarFields (message : Schema.Message) : List Schema.Field :=
  message.fields.filter fun field => field.type.isScalar

/-- A type has a representation iff it is scalar, unless it names an enumeration that is unknown. -/
theorem Schema.ValueType.isSome_representation {registry : Registry} {message field : String}
    {type : ValueType} {r? : Option Representation}
    (h : type.representation registry message field = .ok r?) : r?.isSome = type.isScalar := by
  cases type with
  | enumeration name =>
      rw [representation] at h
      cases hresolve : registry.resolve name message field with
      | error e =>
          rw [hresolve] at h
          cases h
      | ok e =>
          rw [hresolve] at h
          cases h
          rfl
  | _ =>
      cases h
      rfl

namespace Binding

variable {registry : Registry} {options : Options} {role : Role} {message : Schema.Message}

/-- Fields are bound one by one, and those without a binding are left out. -/
theorem forall₂_ofFields {fields : List Schema.Field} {bs : List Binding}
    (h : ofFields registry options role message fields = .ok bs) :
    ∃ found, bs = found.flatMap Option.toList
      ∧ List.Forall₂ (fun field b? => ofField registry options role message field = .ok b?)
        fields found := by
  induction fields generalizing bs with
  | nil =>
      cases h
      exact ⟨[], rfl, .nil⟩
  | cons field fields ih =>
      rw [ofFields] at h
      cases hfield : ofField registry options role message field with
      | error e =>
          rw [hfield] at h
          cases h
      | ok first =>
          cases hrest : ofFields registry options role message fields with
          | error e =>
              rw [hfield, hrest] at h
              cases h
          | ok rest =>
              rw [hfield, hrest] at h
              cases h
              obtain ⟨found, rfl, hfound⟩ := ih hrest
              exact ⟨first :: found, rfl, .cons hfield hfound⟩

/-- The bindings of fields are bindings of single fields. -/
theorem of_mem_ofFields {b : Binding} {fields : List Schema.Field} {bs : List Binding}
    (h : ofFields registry options role message fields = .ok bs) (hb : b ∈ bs) :
    ∃ field ∈ fields, ofField registry options role message field = .ok (some b) := by
  obtain ⟨found, rfl, hfound⟩ := forall₂_ofFields h
  clear h
  induction hfound with
  | nil => cases hb
  | @cons field first fields found hfield _ ih =>
      rw [List.flatMap_cons, List.mem_append, Option.mem_toList] at hb
      rcases hb with hb | hb
      · exact ⟨field, List.mem_cons_self, hb ▸ hfield⟩
      · obtain ⟨other, hother, hbinding⟩ := ih hb
        exact ⟨other, List.mem_cons_of_mem field hother, hbinding⟩

/-- A field has a binding iff its type is scalar, and then it is made of its representation. -/
theorem ofField_eq_ok {field : Schema.Field} {b? : Option Binding}
    (h : ofField registry options role message field = .ok b?) :
    b?.isSome = field.type.isScalar
      ∧ ∀ b, b? = some b → ∃ r, b = make options role message.name field r
        ∧ field.type.representation registry message.name field.name = .ok (some r) := by
  unfold ofField at h
  cases hr : field.type.representation registry message.name field.name with
  | error e =>
      rw [hr] at h
      cases h
  | ok r? =>
      rw [hr] at h
      cases h
      refine ⟨?_, ?_⟩
      · rw [Option.isSome_map, ValueType.isSome_representation hr]
      · intro b hb
        obtain ⟨r, rfl, rfl⟩ := Option.map_eq_some_iff.mp hb
        exact ⟨r, rfl, rfl⟩

/-- **The bindings of a message are those of its scalar fields, one for each and in order.** -/
theorem forall₂_ofMessage {bindings : List Binding}
    (h : ofMessage registry options role message = .ok bindings) :
    List.Forall₂ (fun field b => ∃ r, b = make options role message.name field r
        ∧ field.type.representation registry message.name field.name = .ok (some r))
      message.scalarFields bindings := by
  obtain ⟨found, rfl, hfound⟩ := forall₂_ofFields h
  clear h
  unfold Schema.Message.scalarFields
  generalize message.fields = fields at hfound ⊢
  induction hfound with
  | nil => exact .nil
  | @cons field first fields found hfield _ ih =>
      obtain ⟨hscalar, hmade⟩ := ofField_eq_ok hfield
      rw [List.flatMap_cons, List.filter_cons, ← hscalar]
      cases first with
      | none => exact ih
      | some b => exact .cons (hmade b rfl) ih

/-- What a binding takes from its field and message can be read off the scalar fields. -/
theorem map_ofMessage {α : Type} {bindings : List Binding} {f : Binding → α} {g : Schema.Field → α}
    (h : ofMessage registry options role message = .ok bindings)
    (hmake : ∀ field r, f (make options role message.name field r) = g field) :
    bindings.map f = message.scalarFields.map g := by
  replace h := forall₂_ofMessage h
  generalize message.scalarFields = fields at h ⊢
  induction h with
  | nil => rfl
  | @cons field b fields bindings hfield _ ih =>
      obtain ⟨r, rfl, -⟩ := hfield
      rw [List.map_cons, List.map_cons, hmake, ih]

/-- Some fields have no binding, and the others keep their names and their order. -/
theorem sublist_ofMessage {bindings : List Binding}
    (h : ofMessage registry options role message = .ok bindings) :
    (bindings.map (·.name)).Sublist (message.fields.map (·.name)) := by
  rw [map_ofMessage (g := (·.name)) h fun _ _ => rfl]
  exact List.filter_sublist.map _

end Binding

end DeviceGen
