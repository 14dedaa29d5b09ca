/-
Requests that are written and read again.

A request that was made or read in any way can be written, and the question is whether
the bytes say the same request.  They do under two conditions and no others: the
compiler that the request names, if it names one, is not too old, and no message in it
is nested deeper than the limit.

Requests that were read meet both, however the bytes were arranged.  So the written form
of a request that was read is a normal form of its bytes: it says the same, it is its
own normal form, and no generator can tell the two apart.
-/
import DeviceGen.Generator
import DeviceGen.Proofs.Descriptor.Depth
import DeviceGen.Proofs.Descriptor.RoundTrip

namespace DeviceGen.Request

open DeviceGen.Descriptor (Data nestingLimit)
open DeviceGen.Wire (Cause)

/-! ### The check of the version -/

theorem checkVersion_ok {request : Descriptor.Request}
    (h : ∀ version ∈ request.version?, 3 ≤ version.major) :
    checkVersion request = .ok request := by
  unfold checkVersion
  cases hversion : request.version? with
  | none => rfl
  | some version =>
      have hmajor : ¬ version.major < oldestMajor := Int32.not_lt.mpr (h version hversion)
      exact if_neg hmajor

theorem checkVersion_error {request : Descriptor.Request} {version : Descriptor.Version}
    (hversion : request.version? = some version) (h : version.major < 3) :
    checkVersion request
      = .error (.unsupportedVersion version.major version.minor version.patch) := by
  unfold checkVersion
  rw [hversion]
  exact if_pos h

/-- The check changes nothing, and what passes it is not too old. -/
theorem of_checkVersion_ok {request result : Descriptor.Request}
    (h : checkVersion request = .ok result) :
    request = result ∧ ∀ version ∈ result.version?, 3 ≤ version.major := by
  cases hversion : request.version? with
  | none =>
      have hall : ∀ version ∈ request.version?, 3 ≤ version.major := by simp [hversion]
      rw [checkVersion_ok hall] at h
      cases h
      exact ⟨rfl, hall⟩
  | some version =>
      by_cases hmajor : version.major < 3
      · rw [checkVersion_error hversion hmajor] at h
        cases h
      · have hall : ∀ other ∈ request.version?, 3 ≤ other.major := by
          intro other hother
          obtain rfl : version = other := by simpa [hversion] using hother
          exact Int32.not_lt.mp hmajor
        rw [checkVersion_ok hall] at h
        cases h
        exact ⟨rfl, hall⟩

/-! ### Reading what was written -/

theorem decode_eq_of_read {bytes : List UInt8} {request : Descriptor.Request}
    (h : Descriptor.decode .request bytes = .ok request) :
    decode bytes = checkVersion request := by
  rw [decode, read, h]
  rfl

theorem decode_eq_of_fail {bytes : List UInt8} {failure : Wire.Failure}
    (h : Descriptor.decode .request bytes = .error failure) :
    decode bytes = .error (.malformed .request failure) := by
  rw [decode, read, h]
  rfl

/-- What was accepted was read, and passed the check as it was. -/
theorem read_of_decode_ok {bytes : List UInt8} {request : Descriptor.Request}
    (h : decode bytes = .ok request) :
    Descriptor.decode .request bytes = .ok request ∧ checkVersion request = .ok request := by
  cases hread : Descriptor.decode .request bytes with
  | error failure =>
      rw [decode_eq_of_fail hread] at h
      cases h
  | ok inner =>
      rw [decode_eq_of_read hread] at h
      obtain ⟨rfl, -⟩ := of_checkVersion_ok h
      exact ⟨rfl, h⟩

/-- A request that was read has a version that is not too old and a depth within the
limit. -/
theorem of_decode_ok {bytes : List UInt8} {request : Descriptor.Request}
    (h : decode bytes = .ok request) :
    (∀ version ∈ request.version?, 3 ≤ version.major) ∧ request.depth ≤ nestingLimit := by
  obtain ⟨hread, hcheck⟩ := read_of_decode_ok h
  exact ⟨(of_checkVersion_ok hcheck).2, Descriptor.depth_decode_le hread⟩

/-- **The written form of a request says that request iff the request names no compiler
that is too old and nests its messages at most a hundred deep**; else it is refused, for
its depth before its version. -/
theorem decode_encode_iff (request : Descriptor.Request) (hfits : Data.Fits request) :
    (decode (Descriptor.encode request) = .ok request ↔
      (∀ version ∈ request.version?, 3 ≤ version.major) ∧ request.depth ≤ 100) ∧
    (100 < request.depth →
      ∃ path, decode (Descriptor.encode request)
        = .error (.malformed .request ⟨path, .tooDeep⟩)) ∧
    (request.depth ≤ 100 → ∀ version ∈ request.version?, version.major < 3 →
      decode (Descriptor.encode request)
        = .error (.unsupportedVersion version.major version.minor version.patch)) := by
  have hdecode (hdepth : request.depth ≤ 100) :
      decode (Descriptor.encode request) = checkVersion request :=
    decode_eq_of_read (Descriptor.decode_encode hfits hdepth)
  refine ⟨⟨of_decode_ok, ?_⟩, ?_, ?_⟩
  · rintro ⟨hversion, hdepth⟩
    rw [hdecode hdepth]
    exact checkVersion_ok hversion
  · intro hdepth
    obtain ⟨path, hpath⟩ := Descriptor.decode_encode_tooDeep hfits hdepth
    exact ⟨path, decode_eq_of_fail hpath⟩
  · intro hdepth version hversion hmajor
    rw [hdecode hdepth]
    exact checkVersion_error hversion hmajor

/-- A request of version 3.21 for the file `a`, which it has nothing to say about. -/
def sample : Descriptor.Request :=
  .field (.list ["a"]) (.field (.optional none) (.field
    (.present (.field (.optional (some 3)) (.field (.optional (some 21))
      (.field (.optional none) (.field (.optional none) .empty)))))
    (.field .nil .empty)))

theorem encode_sample : Descriptor.encode sample = [0x0a, 1, 0x61, 0x1a, 4, 8, 3, 16, 21] := by
  decide +kernel

theorem decode_encode_sample :
    Data.Fits sample ∧ decode (Descriptor.encode sample) = .ok sample := by
  have hshort : Data.Short sample := by
    show (Descriptor.encode sample).length < 2 ^ 64
    rw [encode_sample]
    decide
  have hfits := Data.fits_of_short sample hshort
  exact ⟨hfits, (decode_encode_iff sample hfits).1.mpr ⟨by decide, by decide⟩⟩

/-! ### Normal forms -/

/-- The bytes of a request as the request itself is written. -/
def normalize (bytes : List UInt8) : Except Error (List UInt8) :=
  (decode bytes).map Descriptor.encode

theorem of_normalize_ok {bytes normal : List UInt8} (h : normalize bytes = .ok normal) :
    ∃ request, decode bytes = .ok request ∧ normal = Descriptor.encode request := by
  unfold normalize at h
  cases hdecode : decode bytes with
  | error e =>
      rw [hdecode] at h
      cases h
  | ok request =>
      rw [hdecode] at h
      cases h
      exact ⟨request, rfl, rfl⟩

/-- A request that was read is read again from its written form. -/
theorem decode_encode_of_decode {bytes : List UInt8} {request : Descriptor.Request}
    (h : decode bytes = .ok request) (hlen : (Descriptor.encode request).length < 2 ^ 64) :
    decode (Descriptor.encode request) = .ok request := by
  obtain ⟨hversion, hdepth⟩ := of_decode_ok h
  have hfits : Data.Fits request := Data.fits_of_short request hlen
  rw [decode_eq_of_read (Descriptor.decode_encode hfits hdepth)]
  exact checkVersion_ok hversion

/-- Generators see of the bytes only the request that they say. -/
theorem run_eq_of_decode_eq {bytes others : List UInt8} (h : decode bytes = decode others)
    (generator : Generator) : generator.run bytes = generator.run others := by
  unfold Generator.run
  rw [h]

/-- **The normal form of bytes says the same request, is its own normal form, and gives
every generator the same run**, with the same events and the same files or error. -/
theorem normalize_invisible {bytes normal : List UInt8} (h : normalize bytes = .ok normal)
    (hlen : normal.length < 2 ^ 64) :
    decode normal = decode bytes ∧ normalize normal = .ok normal ∧
      (∀ generator : Generator, generator.run normal = generator.run bytes) ∧
      ∃ request, decode bytes = .ok request ∧ request.depth ≤ 100 := by
  obtain ⟨request, hdecode, rfl⟩ := of_normalize_ok h
  have hagain : decode (Descriptor.encode request) = .ok request :=
    decode_encode_of_decode hdecode hlen
  have hsame : decode (Descriptor.encode request) = decode bytes := hagain.trans hdecode.symm
  refine ⟨hsame, ?_, run_eq_of_decode_eq hsame, request, hdecode, (of_decode_ok hdecode).2⟩
  rw [normalize, hagain]
  rfl

/-- Bytes with a field that is not declared, an overlong length, and a version that comes in
two parts around it. -/
theorem normalize_invisible_sample :
    normalize [0x0a, 0x81, 0, 0x61, 0x1a, 2, 8, 3, 0xa0, 6, 1, 0x1a, 0x82, 0, 16, 21]
        = .ok [0x0a, 1, 0x61, 0x1a, 4, 8, 3, 16, 21]
      ∧ decode [0x0a, 1, 0x61, 0x1a, 4, 8, 3, 16, 21] = decode
        [0x0a, 0x81, 0, 0x61, 0x1a, 2, 8, 3, 0xa0, 6, 1, 0x1a, 0x82, 0, 16, 21] := by
  have hdecode : decode [0x0a, 0x81, 0, 0x61, 0x1a, 2, 8, 3, 0xa0, 6, 1, 0x1a, 0x82, 0, 16, 21]
      = .ok sample := by rfl
  have hnormal : normalize [0x0a, 0x81, 0, 0x61, 0x1a, 2, 8, 3, 0xa0, 6, 1, 0x1a, 0x82, 0, 16, 21]
      = .ok [0x0a, 1, 0x61, 0x1a, 4, 8, 3, 16, 21] := by
    rw [normalize, hdecode]
    show Except.ok (Descriptor.encode sample) = _
    rw [encode_sample]
  exact ⟨hnormal, (normalize_invisible hnormal (by decide)).1⟩

end DeviceGen.Request
