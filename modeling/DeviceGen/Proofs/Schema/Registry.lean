/-
What the registry of a request finds.

The registry drops a declaration whose name it holds already.  Looking a name up is
therefore the same as scanning all declarations of all files, in order, for the first
one with that name: what was dropped would never have been found.
-/
import DeviceGen.Schema.Registry

namespace DeviceGen.Schema.Registry

theorem declares_iff {registry : Registry} {name : String} :
    registry.declares name = true ↔ (registry.get? name).isSome := by
  unfold declares get?
  rw [List.contains_iff_mem, List.find?_isSome]
  simp

/-- A declaration is found by its name unless an earlier one with that name is. -/
theorem get?_declare (registry : Registry) (e : Enumeration) (name : String) :
    (registry.declare e).get? name
      = (registry.get? name).or (if e.name = name then some e else none) := by
  unfold declare
  by_cases h : registry.declares e.name = true
  · rw [dif_pos h]
    by_cases hname : e.name = name
    · -- the name is taken, so the declaration that was dropped is not missed
      subst hname
      obtain ⟨found, hfound⟩ := Option.isSome_iff_exists.mp (declares_iff.mp h)
      rw [hfound, Option.some_or]
    · rw [if_neg hname, Option.or_none]
  · rw [dif_neg h]
    show (registry.enums ++ [e]).find? _ = _
    rw [List.find?_append]
    by_cases hname : e.name = name
    · simp [get?, hname]
    · simp [get?, hname]

private theorem get?_foldl_declare (name : String) (es : List Enumeration) :
    ∀ registry : Registry, (es.foldl declare registry).get? name
      = (registry.get? name).or (es.find? (·.name = name)) := by
  induction es with
  | nil =>
      intro registry
      rw [List.foldl_nil, List.find?_nil, Option.or_none]
  | cons e es ih =>
      intro registry
      rw [List.foldl_cons, ih, get?_declare, Option.or_assoc]
      by_cases hname : e.name = name
      · simp [hname]
      · simp [hname]

/-- The enumerations of files in declared order, repeated names included. -/
theorem map_snd_declarations (files : List File) :
    (declarations files).map Prod.snd = files.flatMap File.enums := by
  unfold declarations
  induction files with
  | nil => rfl
  | cons file files ih => simp [List.flatMap_cons, ih, Function.comp_def]

/-- **The registry finds the first declaration of a name in any file.** -/
theorem get?_ofFiles (files : List File) (name : String) :
    (ofFiles files).get? name = (files.flatMap File.enums).find? (·.name = name) := by
  unfold ofFiles
  rw [get?_foldl_declare, map_snd_declarations]
  rfl

theorem get?_ofFiles_eq_none {files : List File} {name : String} :
    (ofFiles files).get? name = none ↔ ∀ file ∈ files, ∀ e ∈ file.enums, e.name ≠ name := by
  rw [get?_ofFiles, List.find?_eq_none]
  constructor
  · intro h file hfile e he
    simpa using h e (List.mem_flatMap.mpr ⟨file, hfile, he⟩)
  · intro h e he
    obtain ⟨file, hfile, he⟩ := List.mem_flatMap.mp he
    simpa using h file hfile e he

/-- Names that are all new are all kept. -/
theorem enums_foldl_declare {es : List Enumeration} {registry : Registry}
    (h : ((registry.enums ++ es).map Enumeration.name).Nodup) :
    (es.foldl declare registry).enums = registry.enums ++ es := by
  induction es generalizing registry with
  | nil => rw [List.foldl_nil, List.append_nil]
  | cons e es ih =>
      have hnew : ¬ registry.declares e.name = true := by
        rw [declares, List.contains_iff_mem]
        rw [List.map_append, List.map_cons, List.nodup_append] at h
        exact fun hmem => h.2.2 _ hmem _ List.mem_cons_self rfl
      have hdeclare : (registry.declare e).enums = registry.enums ++ [e] := by
        rw [declare, dif_neg hnew]
      have happend : registry.enums ++ e :: es = (registry.declare e).enums ++ es := by
        rw [hdeclare, List.append_assoc, List.singleton_append]
      rw [List.foldl_cons, happend]
      exact ih (happend ▸ h)

/-- **The registry holds all declarations if no two have the same name.** -/
theorem enums_ofFiles {files : List File}
    (h : ((files.flatMap File.enums).map Enumeration.name).Nodup) :
    (ofFiles files).enums = files.flatMap File.enums := by
  unfold ofFiles
  rw [map_snd_declarations]
  exact enums_foldl_declare h

end DeviceGen.Schema.Registry
