/-
Responses that are written and read again.

A response is the generated files, each behind its length, and of a file its name and its
content, each behind a length again.  Reading gives back the files with names and contents
as they were, in order: an empty text is written like any other and stays apart from a text
that is not there.  So the bytes of a response determine its files, and whoever reads the
response of a run has exactly the files that were generated.

The only condition is that every length has room in 64 bits.  No length inside the record
of a file exceeds that of the record, so it is enough to ask this of the records.
-/
import DeviceGen.Generator
import DeviceGen.Proofs.Descriptor.Depth
import DeviceGen.Proofs.Descriptor.RoundTrip
import DeviceGen.Proofs.FirstFault

namespace DeviceGen

open DeviceGen.Descriptor (Data GeneratedFileRecord Slot nestingLimit)

/-- The length of a generated file inside a response fits into 64 bits. -/
def Output.File.Fits (f : Output.File) : Prop :=
  (Descriptor.encode (GeneratedFileRecord.make f.name f.content)).length < 2 ^ 64

instance (f : Output.File) : Decidable f.Fits := inferInstanceAs (Decidable (_ < _))

namespace Response

variable {files others : List Output.File}

/-- The record that is written for files. -/
private def recordOf (files : List Output.File) : Descriptor.Response :=
  Descriptor.Response.make optionalFields
    (files.map fun f => GeneratedFileRecord.make f.name f.content)

private theorem fits_recordOf (hfits : ∀ f ∈ files, f.Fits) : Data.Fits (recordOf files) := by
  have hrecords : Data.Fits
      (Slot.ofRecords (files.map fun f => GeneratedFileRecord.make f.name f.content)) := by
    refine Slot.fits_ofRecords fun r hr => ?_
    obtain ⟨f, hf, rfl⟩ := List.mem_map.mp hr
    exact ⟨Data.fits_of_short _ (hfits f hf), hfits f hf⟩
  exact ⟨(fun _ hv => nomatch hv), fun _ _ => trivial, hrecords, trivial⟩

/-- Files are nested in a response, and nothing is nested in them. -/
private theorem depth_recordOf_le (files : List Output.File) :
    (recordOf files).depth ≤ nestingLimit := by
  have hfiles : (Slot.ofRecords
      (files.map fun f => GeneratedFileRecord.make f.name f.content)).depth ≤ 1 := by
    refine Slot.depth_ofRecords_le fun r hr => ?_
    obtain ⟨f, -, rfl⟩ := List.mem_map.mp hr
    exact Nat.zero_lt_one
  have hwhole : (recordOf files).depth ≤ 1 := by
    simp only [recordOf, Descriptor.Response.make, Data.depth]
    omega
  exact Nat.le_trans hwhole (by decide)

/-- The files of the record are the files it was made of. -/
private theorem files_recordOf (files : List Output.File) :
    ((recordOf files).files.map fun r => Output.File.mk r.name r.content) = files := by
  have hrecords : (recordOf files).files
      = files.map fun f => GeneratedFileRecord.make f.name f.content := Data.records_ofRecords _
  rw [hrecords, List.map_map]
  exact List.map_id files

private theorem decode_encode_of_fits (hfits : Data.Fits (recordOf files)) :
    decode (encode files) = .ok files := by
  have hread : Descriptor.decode .response (encode files) = .ok (recordOf files) :=
    Descriptor.decode_encode hfits (depth_recordOf_le files)
  unfold decode
  rw [hread]
  exact congrArg Except.ok (files_recordOf files)

/-- What is written of files is read as the same files. -/
theorem decode_encode (hfits : ∀ f ∈ files, f.Fits) : decode (encode files) = .ok files :=
  decode_encode_of_fits (fits_recordOf hfits)

/-- All lengths inside a response fit if its own length does. -/
theorem decode_encode_of_short (hshort : (encode files).length < 2 ^ 64) :
    decode (encode files) = .ok files :=
  decode_encode_of_fits (Data.fits_of_short _ hshort)

end Response

/-- A run reads a request, generates its files and writes them. -/
theorem Generator.result_run (generator : Generator) (bytes : List UInt8) :
    (generator.run bytes).result = (do
      let request ← Request.decode bytes
      (generator.generate request).result.map Response.encode) := by
  unfold Generator.run
  simp only [Traced.result_bind, Traced.result_ofExcept, Traced.result_pure]
  cases Request.decode bytes with
  | error e => rfl
  | ok request =>
      show ((generator.generate request).result >>= _) = (generator.generate request).result.map _
      cases (generator.generate request).result <;> rfl

/-- A run that ends well has generated the files that it wrote. -/
theorem Generator.of_run_ok {generator : Generator} {bytes response : List UInt8}
    (h : (generator.run bytes).result = .ok response) :
    ∃ request files, Request.decode bytes = .ok request
      ∧ (generator.generate request).result = .ok files ∧ response = Response.encode files := by
  rw [Generator.result_run] at h
  cases hrequest : Request.decode bytes with
  | error e =>
      rw [hrequest] at h
      cases h
  | ok request =>
      rw [hrequest] at h
      replace h : (generator.generate request).result.map Response.encode = .ok response := h
      cases hfiles : (generator.generate request).result with
      | error e =>
          rw [hfiles] at h
          cases h
      | ok files =>
          rw [hfiles] at h
          cases h
          exact ⟨request, files, rfl, hfiles, rfl⟩

namespace Response

/-- **A response is read as the files it was written for**, so different files have different
responses, and the response of every run is read as the files that the run generated. -/
theorem files_decode_encode (files : List Output.File) (hfits : ∀ f ∈ files, f.Fits) :
    decode (encode files) = .ok files
      ∧ (∀ others : List Output.File, (∀ f ∈ others, f.Fits) → others ≠ files →
          encode others ≠ encode files)
      ∧ ∀ (generator : Generator) (bytes response : List UInt8),
          (generator.run bytes).result = .ok response →
          ∃ request generated, Request.decode bytes = .ok request
            ∧ (generator.generate request).result = .ok generated
            ∧ response = encode generated
            ∧ ((∀ f ∈ generated, f.Fits) → decode response = .ok generated) := by
  refine ⟨decode_encode hfits, ?_, ?_⟩
  · intro others hothers hne hsame
    have hread := decode_encode hothers
    rw [hsame, decode_encode hfits] at hread
    exact hne (Except.ok.inj hread).symm
  · intro generator bytes response hrun
    obtain ⟨request, generated, hrequest, hgenerated, rfl⟩ := Generator.of_run_ok hrun
    exact ⟨request, generated, hrequest, hgenerated, rfl, decode_encode⟩

/-- A file with a name of two characters in three bytes, and one with nothing in it. -/
def sampleFiles : List Output.File := [⟨"é.", "x"⟩, ⟨"", ""⟩]

theorem files_decode_encode_sample :
    encode sampleFiles
        = [0x10, 1, 0x7a, 8, 0x0a, 3, 0xc3, 0xa9, 0x2e, 0x7a, 1, 0x78, 0x7a, 4, 0x0a, 0, 0x7a, 0]
      ∧ (∀ f ∈ sampleFiles, f.Fits) ∧ decode (encode sampleFiles) = .ok sampleFiles := by
  have hfits : ∀ f ∈ sampleFiles, f.Fits := by decide +kernel
  exact ⟨by decide +kernel, hfits, (files_decode_encode sampleFiles hfits).1⟩

end Response

end DeviceGen
