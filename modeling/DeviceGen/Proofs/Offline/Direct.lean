/-
The offline command and the generators themselves.

Offline, the files of a set are wrapped into a request, the request is written and read
again, and the response is written and read again.  None of this can be noticed.  A set
that was read is nested no deeper than the limit, and its files stand as deep in a request
as in a set, so the request is within the limit too; it names no compiler that could be too
old.  What remains is what a generator does with the request itself, and a generator
complains only about files and enumerations that are missing.
-/
import DeviceGen.Offline.Run
import DeviceGen.Proofs.Descriptor.Made
import DeviceGen.Proofs.Generator.Events
import DeviceGen.Proofs.Generator.Failure
import DeviceGen.Proofs.Request.RoundTrip
import DeviceGen.Proofs.Response.RoundTrip

namespace DeviceGen

open DeviceGen.Descriptor (Data FieldDescriptor FileDescriptor FileSet MessageDescriptor
  nestingLimit)

/-- An error about bytes that are no message, or are one of a compiler that is too old. -/
inductive Error.FromBytes : Error → Prop where
  | malformed (kind : Descriptor.Kind) (failure : Wire.Failure) :
      FromBytes (.malformed kind failure)
  | unsupportedVersion (major minor patch : Int32) :
      FromBytes (.unsupportedVersion major minor patch)

/-- Generating finds nothing wrong with bytes. -/
theorem Generator.not_fromBytes_of_generate {generator : Generator} {request : Descriptor.Request}
    {e : Error} (h : (generator.generate request).result = .error e) : ¬ e.FromBytes := by
  rcases Generator.error_of_generate h with ⟨name, rfl⟩ | ⟨place, rfl⟩
  · intro hbytes
    cases hbytes
  · intro hbytes
    cases hbytes

/-! ### The request for a set -/

namespace Request

/-- A request is nested as deep as the set it was made for. -/
theorem depth_ofFileSet : ∀ (set : FileSet) (selected : List String) (parameter : Option String),
    (ofFileSet set selected parameter).depth = set.depth
  | .field files .empty, selected, parameter => by
      have hfiles : Descriptor.Slot.ofRecords (FileSet.files (.field files .empty)) = files :=
        Data.ofRecords_records files
      unfold ofFileSet Descriptor.Request.make
      rw [hfiles]
      simp only [Data.depth]
      omega

theorem version?_ofFileSet (set : FileSet) (selected : List String) (parameter : Option String) :
    (ofFileSet set selected parameter).version? = none := rfl

/-- The request for a set that was read is read again from its written form. -/
theorem decode_encode_ofFileSet {bytes : List UInt8} {set : FileSet}
    (hset : FileSet.decode bytes = .ok set) (selected : List String) (parameter : Option String)
    (hlen : (Descriptor.encode (ofFileSet set selected parameter)).length < 2 ^ 64) :
    decode (Descriptor.encode (ofFileSet set selected parameter))
      = .ok (ofFileSet set selected parameter) := by
  have hread : Descriptor.decode .fileSet bytes = .ok set := by
    unfold FileSet.decode at hset
    cases hdecode : Descriptor.decode .fileSet bytes with
    | error failure =>
        rw [hdecode] at hset
        cases hset
    | ok inner =>
        rw [hdecode] at hset
        cases hset
        rfl
  have hdepth : (ofFileSet set selected parameter).depth ≤ nestingLimit := by
    rw [depth_ofFileSet]
    exact Descriptor.depth_decode_le hread
  have hfits : Data.Fits (ofFileSet set selected parameter) := Data.fits_of_short _ hlen
  rw [decode_eq_of_read (Descriptor.decode_encode hfits hdepth)]
  refine checkVersion_ok fun version hversion => ?_
  rw [version?_ofFileSet] at hversion
  cases hversion

end Request

/-! ### The command -/

namespace Offline

variable {bytes : List UInt8} {set : FileSet}

theorem requestBytes_ok (hset : FileSet.decode bytes = .ok set) (selected : List String)
    (parameter : Option String) :
    requestBytes bytes selected parameter
      = .ok (Descriptor.encode (Request.ofFileSet set selected parameter)) := by
  unfold requestBytes
  rw [hset]
  rfl

/-- A run over bytes reports what generating for their request reports. -/
theorem events_run_of_decode {request : Descriptor.Request} {bytes : List UInt8}
    (h : Request.decode bytes = .ok request) (generator : Generator) :
    (generator.run bytes).events = (generator.generate request).events := by
  rw [Generator.events_run, h]

/-- The files of the response to the request for a set are the files that were generated. -/
theorem result_generated {generator : Generator} (hset : FileSet.decode bytes = .ok set)
    (selected : List String) (parameter : Option String)
    (hrun : (generator.run (Descriptor.encode (Request.ofFileSet set selected parameter))).result
      = (generator.generate (Request.ofFileSet set selected parameter)).result.map Response.encode)
    (hfits : ∀ files,
      (generator.generate (Request.ofFileSet set selected parameter)).result = .ok files →
        ∀ f ∈ files, f.Fits) :
    (generated generator bytes selected parameter).result
      = (generator.generate (Request.ofFileSet set selected parameter)).result := by
  unfold generated
  simp only [Traced.result_bind, Traced.result_ofExcept]
  rw [requestBytes_ok hset]
  show (generator.run _).result >>= _ = _
  rw [hrun]
  cases hgenerate : (generator.generate (Request.ofFileSet set selected parameter)).result with
  | error e => rfl
  | ok files => exact Response.decode_encode (hfits files hgenerate)

/-- The files that come out are those that are generated, if they are not too long. -/
theorem generated_eq_generate {generator : Generator} (hset : FileSet.decode bytes = .ok set)
    (selected : List String) (parameter : Option String)
    (hlen : (Descriptor.encode (Request.ofFileSet set selected parameter)).length < 2 ^ 64)
    (hfits : ∀ files,
      (generator.generate (Request.ofFileSet set selected parameter)).result = .ok files →
        ∀ f ∈ files, f.Fits) :
    (generated generator bytes selected parameter).result
      = (generator.generate (Request.ofFileSet set selected parameter)).result := by
  refine result_generated hset selected parameter ?_ hfits
  rw [Generator.result_run, Request.decode_encode_ofFileSet hset selected parameter hlen]
  rfl

/-- **Offline, a generator does with a set what it does with the request for the set.**  The
request is read as it was written; the run over its bytes reports the same events and ends
with the same files, written, or with the same error; and reading the response changes
nothing either.  So once the set was read, nothing is ever wrong with bytes. -/
theorem offline_eq_direct (hset : FileSet.decode bytes = .ok set) (selected : List String)
    (parameter : Option String)
    (hlen : (Descriptor.encode (Request.ofFileSet set selected parameter)).length < 2 ^ 64) :
    let request := Request.ofFileSet set selected parameter
    Request.decode (Descriptor.encode request) = .ok request
      ∧ ∀ generator : Generator,
        (generator.run (Descriptor.encode request)).events = (generator.generate request).events
        ∧ (generator.run (Descriptor.encode request)).result
          = (generator.generate request).result.map Response.encode
        ∧ (∀ e, (generator.run (Descriptor.encode request)).result = .error e → ¬ e.FromBytes)
        ∧ ((∀ files, (generator.generate request).result = .ok files → ∀ f ∈ files, f.Fits) →
          (generated generator bytes selected parameter).result
              = (generator.generate request).result
            ∧ ∀ e, (generated generator bytes selected parameter).result = .error e →
                ¬ e.FromBytes) := by
  intro request
  have hdecode := Request.decode_encode_ofFileSet hset selected parameter hlen
  refine ⟨hdecode, fun generator => ?_⟩
  have hevents := events_run_of_decode hdecode generator
  have hresult : (generator.run (Descriptor.encode request)).result
      = (generator.generate request).result.map Response.encode := by
    rw [Generator.result_run, hdecode]
    rfl
  have hbytes : ∀ e, (generator.run (Descriptor.encode request)).result = .error e →
      ¬ e.FromBytes := by
    intro e he
    rw [hresult] at he
    cases hgenerate : (generator.generate request).result with
    | error e' =>
        rw [hgenerate] at he
        cases he
        exact Generator.not_fromBytes_of_generate hgenerate
    | ok files =>
        rw [hgenerate] at he
        cases he
  refine ⟨hevents, hresult, hbytes, fun hfits => ?_⟩
  have hgenerated := result_generated hset selected parameter hresult hfits
  refine ⟨hgenerated, fun e he => ?_⟩
  rw [hgenerated] at he
  exact Generator.not_fromBytes_of_generate he

/-- A set of one file, which declares a command to switch something on. -/
def sampleSet : FileSet :=
  .field (.cons (FileDescriptor.make "a" none
    [MessageDescriptor.make "ACtl" [FieldDescriptor.make "on" 1 8 none]] []) .nil) .empty

/-- The bytes of the sample set, with the number of the field before its name. -/
def sampleBytes : List UInt8 :=
  [0x0a, 21, 0x0a, 1, 0x61, 0x22, 16, 0x0a, 4, 0x41, 0x43, 0x74, 0x6c, 0x12, 8, 0x18, 1, 0x28, 8,
    0x0a, 2, 0x6f, 0x6e]

theorem offline_eq_direct_sample :
    FileSet.decode sampleBytes = .ok sampleSet
      ∧ Request.decode (Descriptor.encode (Request.ofFileSet sampleSet [] none))
        = .ok (Request.ofFileSet sampleSet [] none)
      ∧ (generated .widgets sampleBytes [] none).result
        = (Generator.widgets.generate (Request.ofFileSet sampleSet [] none)).result := by
  have hset : FileSet.decode sampleBytes = .ok sampleSet := by rfl
  have hlen : (Descriptor.encode (Request.ofFileSet sampleSet [] none)).length < 2 ^ 64 := by
    decide +kernel
  obtain ⟨hdecode, hgenerators⟩ := offline_eq_direct hset [] none hlen
  obtain ⟨-, -, -, hoffline⟩ := hgenerators .widgets
  refine ⟨hset, hdecode, (hoffline ?_).1⟩
  have hall : ((Generator.widgets.generate (Request.ofFileSet sampleSet [] none)).result.toOption.all
      fun files => files.all fun f => decide f.Fits) = true := by
    decide +kernel
  intro files hfiles f hf
  rw [hfiles] at hall
  exact of_decide_eq_true (List.all_eq_true.mp hall f hf)

end Offline

end DeviceGen
