/-
The lengths inside a written record.

Texts, byte strings, packed values and messages stand behind their length, and a length
is read as 64 bits.  `Fits` is the condition that all of them have room there, one by
one and at every level.  A record whose written form is itself that short meets it,
because no length inside is longer than the whole (`fits_of_short`).
-/
import DeviceGen.Proofs.Wire.Written
import DeviceGen.Descriptor.Writer

namespace DeviceGen.Descriptor

open DeviceGen.Wire

/-- Every length that is written fits into 64 bits. -/
def Data.Fits : {shape : Shape} → Data shape → Prop
  | _, @Data.optional s value => ∀ v ∈ value, s.Fits v
  | _, @Data.required s value => s.Fits value
  | _, @Data.list s true values =>
      (∀ v ∈ values, s.Fits v) ∧ (values.flatMap s.write).length < 2 ^ 64
  | _, @Data.list s false values => ∀ v ∈ values, s.Fits v
  | _, .absent => True
  | _, .present r => r.Fits ∧ r.write.length < 2 ^ 64
  | _, .nil => True
  | _, .cons r rest => (r.Fits ∧ r.write.length < 2 ^ 64) ∧ rest.Fits
  | _, .empty => True
  | _, .field slot rest => slot.Fits ∧ rest.Fits

/-- Messages in a repeated field fit one by one. -/
theorem Slot.fits_ofRecords {k : Kind} :
    ∀ {rs : List (Record k)}, (∀ r ∈ rs, Data.Fits r ∧ (Data.write r).length < 2 ^ 64) →
      (Slot.ofRecords rs).Fits
  | [], _ => trivial
  | r :: _, h => ⟨h r List.mem_cons_self, fits_ofRecords fun s hs => h s (List.mem_cons_of_mem r hs)⟩

theorem fits_of_length_write (s : Scalar) (v : s.Carrier) (h : (s.write v).length < 2 ^ 64) :
    s.Fits v := by
  cases s with
  | text | bytes =>
      simp only [Scalar.write, Scalar.delimited, List.length_append] at h
      simp only [Scalar.Fits]
      omega
  | int32 | int64 | uint64 | bool | double => trivial

/-- What is written of a value has fewer than 2⁶⁴ bytes. -/
def Data.Short : {shape : Shape} → Data shape → Prop
  | .slot _, d => ∃ number, (d.write number).length < 2 ^ 64
  | .record _, d => d.write.length < 2 ^ 64

private theorem length_lt_of_writeDelimited {number : Nat} {bytes : List UInt8}
    (h : (writeDelimited number bytes).length < 2 ^ 64) : bytes.length < 2 ^ 64 := by
  simp only [writeDelimited, Scalar.delimited, List.length_append] at h
  omega

private theorem fits_of_flatMap {s : Scalar} {write : s.Carrier → List UInt8}
    (hwrite : ∀ v, (s.write v).length ≤ (write v).length) {values : List s.Carrier}
    (h : (values.flatMap write).length < 2 ^ 64) : ∀ v ∈ values, s.Fits v := by
  intro v hv
  obtain ⟨before, after, rfl⟩ := List.append_of_mem hv
  apply fits_of_length_write
  simp only [List.flatMap_append, List.flatMap_cons, List.length_append] at h
  have := hwrite v
  omega

/-- No length inside is longer than the whole. -/
theorem Data.fits_of_short {shape : Shape} (d : Data shape) (h : d.Short) : d.Fits := by
  induction d with
  | @optional s value =>
      obtain ⟨number, h⟩ := h
      intro v hv
      obtain rfl : value = some v := hv
      apply fits_of_length_write
      simp only [write, Option.map_some, Option.getD_some, writeScalar, List.length_append] at h
      omega
  | @required s value =>
      obtain ⟨number, h⟩ := h
      apply fits_of_length_write
      simp only [write, writeScalar, List.length_append] at h
      omega
  | @list s packed values =>
      obtain ⟨number, h⟩ := h
      cases packed with
      | true =>
          cases values with
          | nil => exact ⟨by simp, by simp⟩
          | cons v values =>
              have hlen := length_lt_of_writeDelimited h
              exact ⟨fits_of_flatMap (fun _ => Nat.le_refl _) hlen, hlen⟩
      | false =>
          exact fits_of_flatMap (fun v => by simp [writeScalar]) h
  | absent => trivial
  | present r ih =>
      obtain ⟨number, h⟩ := h
      have hlen := length_lt_of_writeDelimited h
      exact ⟨ih hlen, hlen⟩
  | nil => trivial
  | cons r rest ih ihrest =>
      obtain ⟨number, h⟩ := h
      simp only [write, List.length_append] at h
      have hlen : r.write.length < 2 ^ 64 :=
        length_lt_of_writeDelimited (Nat.lt_of_le_of_lt (Nat.le_add_right _ _) h)
      exact ⟨⟨ih hlen, hlen⟩, ihrest ⟨number, by omega⟩⟩
  | empty => trivial
  | @field f table slot rest ih ihrest =>
      have hlen : (slot.write f.number ++ rest.write).length < 2 ^ 64 := h
      rw [List.length_append] at hlen
      exact ⟨ih ⟨f.number, Nat.lt_of_le_of_lt (Nat.le_add_right _ _) hlen⟩,
        ihrest (Nat.lt_of_le_of_lt (Nat.le_add_left _ _) hlen)⟩

end DeviceGen.Descriptor
