/-
Which fields of a widget have keys of their own.

A widget knows its values by keys, which are the names of fields, in mixed case unless they are
to be kept.  Two fields with one key would be edited as one.  Names without capital letters can be
read off their mixed case, so fields that have such names are kept apart.
-/
import Mathlib.Data.List.Nodup
import DeviceGen.Proofs.Bindings
import DeviceGen.Proofs.Text.MixedCase

namespace DeviceGen.Binding

open DeviceGen.Schema (Registry Role)
open DeviceGen.Text (HasNoCapitals camelCase spellOut spellOut_camelCase)

variable {registry : Registry} {options : Options} {role : Role} {message : Schema.Message}
  {bindings : List Binding}

/-- Names without capitals have keys of their own. -/
theorem keyOf_inj {name other : String} (hname : HasNoCapitals name)
    (hother : HasNoCapitals other) (h : keyOf options name = keyOf options other) :
    name = other := by
  unfold keyOf at h
  by_cases hkeep : options.keepCase = true
  · rwa [if_pos hkeep, if_pos hkeep] at h
  · rw [if_neg hkeep, if_neg hkeep] at h
    rw [← spellOut_camelCase hname, ← spellOut_camelCase hother, h]

theorem map_key_ofMessage (h : ofMessage registry options role message = .ok bindings) :
    bindings.map (·.key) = (bindings.map (·.name)).map (keyOf options) := by
  rw [map_ofMessage (g := fun field => keyOf options field.name) h fun _ _ => rfl,
    map_ofMessage (g := (·.name)) h fun _ _ => rfl, List.map_map]
  rfl

/-- **Fields whose names have no capitals have different keys**, and such a name is what its mixed
case spells out. -/
theorem keys_distinct
    (hbindings : ofMessage registry options role message = .ok bindings)
    (hdistinct : (message.fields.map (·.name)).Nodup)
    (hcapitals : ∀ field ∈ message.fields, HasNoCapitals field.name) :
    (bindings.map (·.key)).Nodup
      ∧ ∀ name, HasNoCapitals name → spellOut (camelCase name) = name := by
  refine ⟨?_, fun name => spellOut_camelCase⟩
  have hsublist := sublist_ofMessage hbindings
  have hnames : ∀ name ∈ bindings.map (·.name), HasNoCapitals name := by
    intro name hname
    obtain ⟨field, hfield, rfl⟩ := List.mem_map.mp (hsublist.mem hname)
    exact hcapitals field hfield
  rw [map_key_ofMessage hbindings]
  refine List.Nodup.map_on (fun name hname other hother => ?_) (hdistinct.sublist hsublist)
  exact keyOf_inj (hnames name hname) (hnames other hother)

/-- A message whose fields have much the same names but for their underscores. -/
def underscoresMessage : Schema.Message where
  name := "ProbeTlm"
  fields := [⟨"a_b_c", 1, .int32⟩, ⟨"a__b_c", 2, .double⟩, ⟨"_a_b", 3, .bool⟩, ⟨"a_b", 4, .other⟩,
    ⟨"ab_1", 5, .uint64⟩, ⟨"ab_", 6, .float⟩]

theorem keys_distinct_probe :
    ∃ bindings, ofMessage .empty .default .incoming underscoresMessage = .ok bindings
      ∧ bindings.map (·.key) = ["a_bC", "a__bC", "_aB", "ab_1", "ab_"]
      ∧ (bindings.map (·.key)).Nodup ∧ spellOut (camelCase "a__b_c") = "a__b_c" := by
  obtain ⟨bindings, hbindings, hkeys⟩ :
      ∃ bindings, ofMessage .empty .default .incoming underscoresMessage = .ok bindings
        ∧ bindings.map (·.key) = ["a_bC", "a__bC", "_aB", "ab_1", "ab_"] :=
    ⟨_, rfl, by decide⟩
  obtain ⟨hdistinct, hspelled⟩ := keys_distinct hbindings (by decide) (by decide)
  exact ⟨bindings, hbindings, hkeys, hdistinct, hspelled _ (by decide)⟩

end DeviceGen.Binding
