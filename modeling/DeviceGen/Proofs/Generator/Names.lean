/-
Which generated files have the same name.

If more than one file is selected, the name of a generated file is the path of its schema file
without the ending of schema files, and then the generator's own.  Nothing gets lost behind the
path, so two generated files of one kind have the same name iff their schema files have the same
path without the ending (`disjoint_fileNames_iff`).  For different schema files this happens in
one way only: a path that has no ending is another one without its ending
(`Text.beforeEnding_eq_iff`).
-/
import DeviceGen.Proofs.Can.Guards
import DeviceGen.Proofs.Generator.Selection

namespace DeviceGen

open DeviceGen.Descriptor (FieldDescriptor FileDescriptor MessageDescriptor)

/-! ### Texts without an ending -/

namespace Text

theorem beforeEnding_of_not_hasEnding {ending text : String}
    (h : hasEnding ending text = false) : beforeEnding ending text = text := by
  unfold beforeEnding charsBeforeEnding
  unfold hasEnding at h
  rw [h, if_neg (by simp), String.ofList_toList]

/-- Texts are the same without an ending iff they are the same, or one of them is the other
with the ending, which the other does not have itself. -/
theorem beforeEnding_eq_iff {ending text other : String} :
    beforeEnding ending text = beforeEnding ending other ↔
      text = other ∨ (other = text ++ ending ∧ hasEnding ending text = false)
        ∨ (text = other ++ ending ∧ hasEnding ending other = false) := by
  constructor
  · intro h
    cases htext : hasEnding ending text <;> cases hother : hasEnding ending other
    · rw [beforeEnding_of_not_hasEnding htext, beforeEnding_of_not_hasEnding hother] at h
      exact .inl h
    · obtain ⟨stem, rfl⟩ := hasEnding_iff.mp hother
      rw [beforeEnding_of_not_hasEnding htext, beforeEnding_append] at h
      exact .inr (.inl ⟨by rw [h], rfl⟩)
    · obtain ⟨stem, rfl⟩ := hasEnding_iff.mp htext
      rw [beforeEnding_of_not_hasEnding hother, beforeEnding_append] at h
      exact .inr (.inr ⟨by rw [h], rfl⟩)
    · obtain ⟨stem, rfl⟩ := hasEnding_iff.mp htext
      obtain ⟨stem', rfl⟩ := hasEnding_iff.mp hother
      rw [beforeEnding_append, beforeEnding_append] at h
      exact .inl (by rw [h])
  · rintro (rfl | ⟨rfl, h⟩ | ⟨rfl, h⟩)
    · rfl
    · rw [beforeEnding_append, beforeEnding_of_not_hasEnding h]
    · rw [beforeEnding_append, beforeEnding_of_not_hasEnding h]

end Text

namespace Generator

variable {request : Descriptor.Request}

/-! ### The names of a run -/

/-- The names of generated files follow from the selection alone. -/
theorem map_name_generate {generator : Generator} {outputs : List Output.File}
    (h : (generator.generate request).result = .ok outputs) :
    outputs.map (·.name)
      = request.selected.flatMap (generator.fileNames request.selected.length) := by
  obtain ⟨bound, -, rfl⟩ := generator.generate_eq_ok.mp h
  rw [List.map_flatMap]
  simp only [map_name_outputsFor]

/-- A header never has the name of a source: it ends differently. -/
theorem append_headerName_ne (stem stem' : String) :
    stem ++ "." ++ Can.headerName ≠ stem' ++ "." ++ Can.sourceName := by
  intro h
  have hlast := congrArg (fun text => text.toList.getLast?) h
  simp [Can.headerName, Can.sourceName] at hlast

theorem nodup_fileNames (generator : Generator) (selected : Nat) (name : String) :
    (generator.fileNames selected name).Nodup := by
  cases generator with
  | widgets => simp [fileNames]
  | can =>
      have hne (stem : String) : Output.fileName Can.headerName stem selected
          ≠ Output.fileName Can.sourceName stem selected := by
        unfold Output.fileName
        by_cases hselected : selected ≤ 1
        · rw [if_pos hselected, if_pos hselected]
          decide
        · rw [if_neg hselected, if_neg hselected]
          exact append_headerName_ne stem stem
      simpa [fileNames] using hne _

/-- The generated files for two of several selected files have different names iff the paths of
the two are different without the ending. -/
theorem disjoint_fileNames_iff (generator : Generator) {selected : Nat} (hmany : 2 ≤ selected)
    {name other : String} :
    (generator.fileNames selected name).Disjoint (generator.fileNames selected other)
      ↔ Text.beforeEnding ".proto" name ≠ Text.beforeEnding ".proto" other := by
  have hselected : ¬ selected ≤ 1 := Nat.not_le.mpr hmany
  cases generator with
  | widgets => simpa [fileNames, Output.fileName, hselected] using ne_comm
  | can =>
      have hsource (stem stem' : String) := (append_headerName_ne stem' stem).symm
      simpa [fileNames, Output.fileName, hselected, append_headerName_ne, hsource] using ne_comm

/-- Of several generated files no two have the same name iff no two selected paths are the same
without the ending. -/
theorem nodup_fileNames_iff (generator : Generator) {names : List String}
    (hmany : 2 ≤ names.length) :
    (names.flatMap (generator.fileNames names.length)).Nodup
      ↔ (names.map (Text.beforeEnding ".proto")).Nodup := by
  rw [List.nodup_flatMap, and_iff_right fun name _ => generator.nodup_fileNames _ name,
    List.Nodup, List.pairwise_map]
  exact List.Pairwise.iff fun _ _ => generator.disjoint_fileNames_iff hmany

/-- Different paths are different without the ending iff none of them has a twin with it. -/
theorem nodup_map_beforeEnding_iff {names : List String} (hnames : names.Nodup) :
    (names.map (Text.beforeEnding ".proto")).Nodup
      ↔ ∀ name ∈ names, name ++ ".proto" ∈ names → Text.hasEnding ".proto" name = true := by
  rw [List.nodup_map_iff_inj_on hnames]
  constructor
  · intro hinjective name hname htwin
    by_contra hending
    have hsame := hinjective name hname (name ++ ".proto") htwin
      (Text.beforeEnding_eq_iff.mpr (.inr (.inl ⟨rfl, by simpa using hending⟩)))
    simpa using congrArg String.length hsame
  · intro htwins name hname other hother hsame
    obtain heq | ⟨rfl, hending⟩ | ⟨rfl, hending⟩ := Text.beforeEnding_eq_iff.mp hsame
    · exact heq
    · rw [htwins name hname hother] at hending
      cases hending
    · rw [htwins other hother hname] at hending
      cases hending

/-- **Output names collide iff a schema file is selected with and without the ending of its
path.**  The names of all files that a run generates are different iff no selected path that has
no ending is selected with it as well. -/
theorem names_differ_iff (generator : Generator) {outputs : List Output.File}
    (h : (generator.generate request).result = .ok outputs) (hselected : request.selected.Nodup) :
    (outputs.map (·.name)).Nodup
      ↔ ∀ name ∈ request.selected, name ++ ".proto" ∈ request.selected →
          Text.hasEnding ".proto" name = true := by
  rw [map_name_generate h, ← nodup_map_beforeEnding_iff hselected]
  by_cases hmany : 2 ≤ request.selected.length
  · exact generator.nodup_fileNames_iff hmany
  · -- a single file has the generator's own name, whatever its path is
    cases hnames : request.selected with
    | nil => simp
    | cons name names =>
        obtain rfl : names = [] := by
          rw [hnames, List.length_cons] at hmany
          exact List.length_eq_zero_iff.mp (by omega)
        simpa using generator.nodup_fileNames 1 name

/-- A file of pumps without the ending of schema files, and one of their telemetry with it. -/
def twinRequest : Descriptor.Request :=
  .make ["pump", "pump.proto"] none
    [FileDescriptor.make "pump" none
        [MessageDescriptor.make "PumpCtl" [FieldDescriptor.make "speed" 1 2 none]] [],
      FileDescriptor.make "pump.proto" none
        [MessageDescriptor.make "PumpTlm" [FieldDescriptor.make "flow" 1 2 none]] []]

theorem names_differ_iff_plant :
    ∃ outputs, (can.generate plantRequest).result = .ok outputs
      ∧ (outputs.map (·.name)).Nodup := by
  obtain ⟨outputs, h⟩ := generate_plantRequest
  exact ⟨outputs, h, (names_differ_iff can h (by decide +kernel)).mpr (by decide +kernel)⟩

/-- Different paths do not keep output names apart: both files give files of the same names,
whichever generator it is. -/
theorem names_may_collide :
    twinRequest.selected.Nodup
      ∧ ∀ generator : Generator, ∃ outputs,
        (generator.generate twinRequest).result = .ok outputs
          ∧ outputs.map (·.name) = generator.fileNames 2 "pump" ++ generator.fileNames 2 "pump"
          ∧ ¬ (outputs.map (·.name)).Nodup := by
  have hselected : twinRequest.selected = ["pump", "pump.proto"] := by rfl
  refine ⟨by decide +kernel, fun generator => ?_⟩
  obtain ⟨outputs, h⟩ : ∃ outputs, (generator.generate twinRequest).result = .ok outputs := by
    cases generator <;> exact exists_ok_of_isSome (by decide +kernel)
  have hnames : outputs.map (·.name)
      = generator.fileNames 2 "pump" ++ generator.fileNames 2 "pump" := by
    rw [map_name_generate h, hselected]
    cases generator <;> decide +kernel
  refine ⟨outputs, h, hnames, ?_⟩
  rw [hnames]
  cases generator <;> decide +kernel

end Generator

end DeviceGen
