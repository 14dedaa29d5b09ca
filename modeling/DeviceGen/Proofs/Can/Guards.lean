/-
Which guards meet.

A guard is made of a name character by character.  Letters lose their case, and whatever no
macro name can hold becomes an underscore.  So a guard tells names apart unless they are
alike: as long as each other, and at each place with the same letter or digit, but for its
case, or with something that is neither.  This holds for the guards of headers, which are
named like the schema files, and for those of enumeration types, which are named like the
enumerations.  If no two names of a request are alike, then no two guards meet, and no
declaration gets lost when its headers are included together.
-/
import Mathlib.Data.List.Forall2
import Mathlib.Data.List.Nodup
import DeviceGen.Proofs.Can.Together

namespace DeviceGen

/-! ### Names that guards do not tell apart -/

namespace C

/-- The same letter or digit, but for its case, or two characters that are neither. -/
def CharAlike (c d : Char) : Prop :=
  c.isAlphanum = d.isAlphanum ∧ (c.isAlphanum = true → c.toUpper = d.toUpper)

instance (c d : Char) : Decidable (CharAlike c d) := inferInstanceAs (Decidable (_ ∧ _))

/-- Alike character by character. -/
def Alike (s t : String) : Prop := List.Forall₂ CharAlike s.toList t.toList

instance (s t : String) : Decidable (Alike s t) :=
  inferInstanceAs (Decidable (List.Forall₂ CharAlike s.toList t.toList))

theorem toUpper_ne_underscore {c : Char} (h : c.isAlphanum = true) : c.toUpper ≠ '_' :=
  Text.forall_isWordChar (P := fun c => c.isAlphanum = true → c.toUpper ≠ '_') (by decide)
    (by rw [Text.isWordChar, h, Bool.true_or]) h

theorem guardChar_eq_iff {c d : Char} : guardChar c = guardChar d ↔ CharAlike c d := by
  unfold guardChar CharAlike
  cases hc : c.isAlphanum <;> cases hd : d.isAlphanum
  · simp
  · simpa using (toUpper_ne_underscore hd).symm
  · simpa using toUpper_ne_underscore hc
  · simp

/-- **A guard tells names apart iff they are not alike.** -/
theorem guardName_eq_iff {s t : String} : guardName s = guardName t ↔ Alike s t := by
  unfold guardName Alike
  rw [String.ofList_inj, ← List.forall₂_eq_eq_eq, List.forall₂_map_left_iff,
    List.forall₂_map_right_iff]
  simp only [guardChar_eq_iff]

theorem guardName_append (s t : String) : guardName (s ++ t) = guardName s ++ guardName t := by
  unfold guardName
  rw [String.toList_append, List.map_append, String.ofList_append]

/-- A full name without dots at its beginning. -/
def undotted (name : String) : String := String.ofList (name.toList.dropWhile (· = '.'))

theorem guardName_enumBase (name : String) :
    guardName (enumBase name) = guardName (undotted name) := by
  unfold guardName enumBase undotted
  rw [String.toList_ofList, String.toList_ofList, List.map_map]
  refine congrArg String.ofList (List.map_congr_left fun c _ => ?_)
  by_cases hc : c = '.'
  · subst hc
    rfl
  · simp [hc]

theorem enumGuard_eq_iff {name other : String} :
    enumGuard name = enumGuard other ↔ Alike (undotted name) (undotted other) := by
  unfold enumGuard
  rw [String.append_left_inj, guardName_enumBase, guardName_enumBase, guardName_eq_iff]

end C

/-! ### Names of headers -/

theorem Text.beforeEnding_append (stem ending : String) :
    beforeEnding ending (stem ++ ending) = stem := by
  unfold beforeEnding charsBeforeEnding
  rw [String.toList_append,
    if_pos (List.isSuffixOf_iff_suffix.mpr (List.suffix_append _ _)), List.length_append,
    Nat.add_sub_cancel, List.take_left, String.ofList_toList]

/-- The files that are found are named as they were asked for. -/
theorem Schema.Model.map_name_select {model : Schema.Model} {names : List String}
    {schemas : List Schema.File} (h : model.select names = .ok schemas) :
    schemas.map (·.name) = names := by
  induction names generalizing schemas with
  | nil =>
      cases h
      rfl
  | cons name names ih =>
      rw [select] at h
      cases hfind : model.file? name with
      | none =>
          rw [hfind] at h
          cases h
      | some file =>
          rw [hfind] at h
          cases hrest : model.select names with
          | error e =>
              rw [hrest] at h
              cases h
          | ok rest =>
              rw [hrest] at h
              cases h
              have hname : file.name = name := by simpa using List.find?_some hfind
              rw [List.map_cons, hname, ih hrest]

namespace Can

open DeviceGen.C (Alike enumGuard enumGuard_eq_iff guardName guardName_append guardName_eq_iff
  undotted)
open DeviceGen.Descriptor (EnumDescriptor EnumValueDescriptor FieldDescriptor FileDescriptor
  MessageDescriptor)

variable {request : Descriptor.Request} {files : List Output.File}

/-- The name of the header for a selected name, if there are others. -/
def headerNameFor (name : String) : String := Text.beforeEnding ".proto" name ++ "." ++ headerName

theorem map_name_headers (hgenerate : (Generator.can.generate request).result = .ok files)
    (hmany : 2 ≤ request.selected.length) :
    request.headers.map Header.name = request.selected.map headerNameFor := by
  rw [Generator.result_generate] at hgenerate
  cases hselect : (Schema.Model.ofRequest request).select request.selected with
  | error e =>
      rw [hselect] at hgenerate
      cases hgenerate
  | ok schemas =>
      have hheaders : request.headers = schemas.map (headerOf request.context) := by
        rw [Schema.Model.select_eq request hselect, List.map_map]
        rfl
      rw [hheaders, ← Schema.Model.map_name_select hselect, List.map_map, List.map_map]
      refine List.map_congr_left fun schema _ => ?_
      have hselected : ¬ request.context.selected ≤ 1 := Nat.not_le.mpr hmany
      show Output.fileName headerName schema.stem request.context.selected = _
      unfold Output.fileName
      rw [if_neg hselected]
      rfl

/-- The guards for two schema files meet iff the files are named alike. -/
theorem guardName_headerNameFor {name other : String} (hname : Text.hasEnding ".proto" name = true)
    (hother : Text.hasEnding ".proto" other = true) :
    guardName (headerNameFor name) = guardName (headerNameFor other) ↔ Alike name other := by
  obtain ⟨stem, rfl⟩ := Text.hasEnding_iff.mp hname
  obtain ⟨stem', rfl⟩ := Text.hasEnding_iff.mp hother
  unfold headerNameFor
  rw [Text.beforeEnding_append, Text.beforeEnding_append, ← guardName_eq_iff]
  simp only [guardName_append, String.append_left_inj]

/-- A selected name stands for the header in its place. -/
theorem name_of_mem_zip (hgenerate : (Generator.can.generate request).result = .ok files)
    (hmany : 2 ≤ request.selected.length) {name : String} {h : Header}
    (hmem : (name, h) ∈ request.selected.zip request.headers) : h.name = headerNameFor name := by
  obtain ⟨i, hi, hget⟩ := List.getElem_of_mem hmem
  rw [List.getElem_zip, Prod.mk.injEq] at hget
  obtain ⟨rfl, rfl⟩ := hget
  have hnames := congrArg (·[i]?) (map_name_headers hgenerate hmany)
  rw [List.length_zip, Nat.lt_min] at hi
  simpa [hi.1, hi.2] using hnames

/-- No two guards of headers meet iff no two of the schema files are named alike. -/
theorem nodup_guards_iff (hgenerate : (Generator.can.generate request).result = .ok files)
    (hmany : 2 ≤ request.selected.length)
    (hproto : ∀ name ∈ request.selected, Text.hasEnding ".proto" name = true) :
    (request.headers.map Header.guard).Nodup
      ↔ request.selected.Pairwise fun name other => ¬ Alike name other := by
  have hguards : request.headers.map Header.guard
      = request.selected.map fun name => guardName (headerNameFor name) := by
    have hnames := congrArg (List.map guardName) (map_name_headers hgenerate hmany)
    rw [List.map_map, List.map_map] at hnames
    exact hnames
  rw [hguards, List.Nodup, List.pairwise_map]
  exact List.Pairwise.iff_of_mem fun hname hother =>
    not_congr (guardName_headerNameFor (hproto _ hname) (hproto _ hother))

/-- **Guards of a request meet iff names are alike.**  The guards of the headers for two
selected files are the same iff the files are named alike, and those of two enumeration types
iff the enumerations are named alike, but for dots at the beginning.  So if no two names are
alike, no declaration gets lost when the headers are included together. -/
theorem guards_meet_iff (hgenerate : (Generator.can.generate request).result = .ok files)
    (hmany : 2 ≤ request.selected.length)
    (hproto : ∀ name ∈ request.selected, Text.hasEnding ".proto" name = true) :
    request.headers.length = request.selected.length
      ∧ (∀ p ∈ request.selected.zip request.headers, ∀ q ∈ request.selected.zip request.headers,
        p.2.guard = q.2.guard ↔ Alike p.1 q.1)
      ∧ (∀ e e', Needed request.headers e → Needed request.headers e' →
        (enumGuard e.name = enumGuard e'.name ↔ Alike (undotted e.name) (undotted e'.name)))
      ∧ ((request.selected.Pairwise fun name other => ¬ Alike name other) →
        (∀ e e', Needed request.headers e → Needed request.headers e' → e ≠ e' →
          ¬ Alike (undotted e.name) (undotted e'.name)) →
        (request.headers.map Header.guard).Nodup
          ∧ (∀ e e', Needed request.headers e → Needed request.headers e' → e ≠ e' →
            enumGuard e.name ≠ enumGuard e'.name)
          ∧ (request.NamedByWords → ∀ row : List Header, (∀ h, h ∈ row ↔ h ∈ request.headers) →
            ∃ s kept, Survives row s kept)) := by
  have hlength := congrArg List.length (map_name_headers hgenerate hmany)
  rw [List.length_map, List.length_map] at hlength
  refine ⟨hlength, ?_, fun e e' _ _ => enumGuard_eq_iff, ?_⟩
  · rintro ⟨name, h⟩ hp ⟨other, h'⟩ hq
    unfold Header.guard
    rw [name_of_mem_zip hgenerate hmany hp, name_of_mem_zip hgenerate hmany hq]
    exact guardName_headerNameFor (hproto name (List.of_mem_zip hp).1)
      (hproto other (List.of_mem_zip hq).1)
  · intro hfiles henums
    have hnodup := (nodup_guards_iff hgenerate hmany hproto).mpr hfiles
    have hapart : ∀ e e', Needed request.headers e → Needed request.headers e' → e ≠ e' →
        enumGuard e.name ≠ enumGuard e'.name := fun e e' he he' hne hguard =>
      henums e e' he he' hne (enumGuard_eq_iff.mp hguard)
    refine ⟨hnodup, hapart, fun hwords row hrow => ?_⟩
    refine (compatible_headers hwords ?_ ?_).survives hrow
    · exact fun h hh h' hh' hguard => List.inj_on_of_nodup_map hnodup hh hh' hguard
    · intro e e' he he' hguard
      by_cases heq : e = e'
      · rw [heq]
      · exact absurd hguard (hapart e e' he he' heq)

theorem guards_meet_iff_sample :
    (sampleRequest.headers.map Header.guard).Nodup
      ∧ ∃ s kept, Survives (sampleRequest.headers.reverse ++ sampleRequest.headers) s kept := by
  obtain ⟨files, hgenerate⟩ := generate_sampleRequest
  obtain ⟨-, -, -, hdistinct⟩ := guards_meet_iff hgenerate (by decide +kernel) (by decide +kernel)
  obtain ⟨hnodup, -, hsurvives⟩ := hdistinct (by decide +kernel) fun e e' he he' hne =>
    absurd ((needed_sampleRequest.mp he).trans (needed_sampleRequest.mp he').symm) hne
  exact ⟨hnodup, hsurvives namedByWords_sampleRequest _ (by simp)⟩

/-- Two files whose names differ in a separator, with two enumerations whose names differ in
case. -/
def meetingRequest : Descriptor.Request :=
  .make ["a/b.proto", "a_b.proto"] none [
    FileDescriptor.make "a/b.proto" (some "fw")
      [MessageDescriptor.make "ACtl" [FieldDescriptor.make "mode" 1 14 (some ".fw.Mode")]]
      [EnumDescriptor.make "Mode" [EnumValueDescriptor.make "OFF" 0]],
    FileDescriptor.make "a_b.proto" (some "fw")
      [MessageDescriptor.make "BTlm" [FieldDescriptor.make "mode" 1 14 (some ".fw.MODE")]]
      [EnumDescriptor.make "MODE" [EnumValueDescriptor.make "IDLE" 0]]]

theorem clear_meetingRequest {h : Header} (hh : h ∈ meetingRequest.headers) {m : Message}
    (hm : m ∈ h.messages) : m.Clear :=
  Descriptor.Request.clear_of_mem_messages
    (.of_flat (by decide +kernel) (by decide +kernel) (by decide +kernel) (by decide +kernel)) hh hm

/-- Different names do not keep guards apart, and then declarations get lost: with the guard
of one header defined, all of the other is left out but its comment. -/
theorem guards_may_meet :
    (meetingRequest.files.map (·.name)).Nodup
      ∧ ((Schema.Model.ofRequest meetingRequest).files.flatMap fun file =>
        file.enums.map (·.name)) = [".fw.Mode", ".fw.MODE"]
      ∧ (∃ files, (Generator.can.generate meetingRequest).result = .ok files)
      ∧ meetingRequest.selected = ["a/b.proto", "a_b.proto"]
      ∧ meetingRequest.headers.map Header.guard = ["A_B_CAN_PB_H", "A_B_CAN_PB_H"]
      ∧ (meetingRequest.headers.flatMap Header.enums).map (fun e => (e.name, enumGuard e.name))
        = [(".fw.Mode", "FW_MODE_DEFINED"), (".fw.MODE", "FW_MODE_DEFINED")]
      ∧ ∀ h ∈ meetingRequest.headers, ∀ s : C.Preprocessor, s.keeps = true →
        "A_B_CAN_PB_H" ∈ s.defined → s.run h.lines = some (s, commentLines) := by
  have hfiles : (meetingRequest.files.map (·.name)).Nodup := by decide +kernel
  have henums : ((Schema.Model.ofRequest meetingRequest).files.flatMap fun file =>
      file.enums.map (·.name)) = [".fw.Mode", ".fw.MODE"] := by
    decide +kernel
  have hselected : meetingRequest.selected = ["a/b.proto", "a_b.proto"] := by decide +kernel
  have hheaders : meetingRequest.headers.map Header.guard = ["A_B_CAN_PB_H", "A_B_CAN_PB_H"] := by
    decide +kernel
  have htypes : (meetingRequest.headers.flatMap Header.enums).map
      (fun e => (e.name, enumGuard e.name))
        = [(".fw.Mode", "FW_MODE_DEFINED"), (".fw.MODE", "FW_MODE_DEFINED")] := by
    decide +kernel
  refine ⟨hfiles, henums, exists_ok_of_isSome (by decide +kernel), hselected, hheaders, htypes, ?_⟩
  intro h hh s hs hdefined
  have hguard : h.guard = "A_B_CAN_PB_H" := by
    have hmem := List.mem_map_of_mem (f := Header.guard) hh
    rw [hheaders] at hmem
    simpa using hmem
  exact Header.run_lines_of_defined (fun m hm => clear_meetingRequest hh hm) hs (hguard ▸ hdefined)

end Can

end DeviceGen
