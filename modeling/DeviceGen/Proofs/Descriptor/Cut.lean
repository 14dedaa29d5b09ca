/-
Messages that are cut off.

A field says itself where it ends, in its key and its length, so the same bytes are never two
different rows of fields.  Bytes that are read as a message are therefore cut off from longer ones
only between two fields (`row_take`).

The fields of a written message have another use: what was read bounds the lengths in it.  If a
row of fields is read, then each length in it was one of 64 bits (`length_lt_of_row`).
-/
import DeviceGen.Proofs.Descriptor.Contents
import DeviceGen.Proofs.Descriptor.Lengths

namespace DeviceGen.Wire

/-- Bytes begin with one written integer at most. -/
theorem Varint.FormWithin.eq_of_write {places m n : Nat} {bytes s t : List UInt8}
    (h : FormWithin places m bytes) (hsame : bytes ++ s = write n ++ t) : m = n := by
  induction h generalizing n with
  | @last places byte hbyte =>
      rw [write] at hsame
      by_cases hn : n < 128
      · rw [if_pos hn] at hsame
        obtain ⟨rfl, -⟩ := List.cons.inj hsame
        rw [UInt8.toNat_ofNat']
        omega
      · rw [if_neg hn] at hsame
        obtain ⟨rfl, -⟩ := List.cons.inj hsame
        rw [UInt8.toNat_ofNat'] at hbyte
        omega
  | @more places m byte bytes hbyte others ih =>
      rw [write] at hsame
      by_cases hn : n < 128
      · rw [if_pos hn] at hsame
        obtain ⟨rfl, -⟩ := List.cons.inj hsame
        rw [UInt8.toNat_ofNat'] at hbyte
        omega
      · rw [if_neg hn] at hsame
        obtain ⟨rfl, hrest⟩ := List.cons.inj hsame
        have hhigh := ih hrest
        rw [UInt8.toNat_ofNat']
        omega

open Reader (Reads Row)

/-- A written field is a field if its length has 64 bits. -/
theorem isField_writeDelimited {number : Nat} {content : List UInt8} (h₀ : 0 < number)
    (h₁ : number < 2 ^ 29) (hlen : content.length < 2 ^ 64) :
    IsField 1 number (Descriptor.writeDelimited number content) :=
  .plain (Key.form_write h₀ h₁) (.delimited (Varint.form_write hlen))

/-- A field that is written at the front of a field has a length of 64 bits. -/
theorem IsField.length_lt {levels number written : Nat} {taken content s t : List UInt8}
    (h : IsField levels number taken) (h₀ : 0 < written) (h₁ : written < 2 ^ 29)
    (hsame : taken ++ s = Descriptor.writeDelimited written content ++ t) :
    content.length < 2 ^ 64 := by
  have hkey : Reads Key.read (Key.write ⟨written, .delimited⟩) ⟨written, .delimited⟩ :=
    Key.reads_write h₀ h₁
  unfold Descriptor.writeDelimited Scalar.delimited at hsame
  cases h with
  | plain hform hpayload =>
      simp only [List.append_assoc] at hsame
      obtain ⟨rfl, hsamekey, hrest⟩ := hform.reads.unique hkey hsame
      obtain ⟨rfl, rfl⟩ := Key.mk.inj hsamekey
      cases hpayload with
      | delimited hlength =>
          rw [List.append_assoc] at hrest
          rw [← hlength.within.eq_of_write hrest]
          exact hlength.lt
  | group hopening hfields hclosing =>
      simp only [List.append_assoc] at hsame
      obtain ⟨-, hsamekey, -⟩ := hopening.reads.unique hkey hsame
      cases hsamekey

end DeviceGen.Wire

namespace DeviceGen.Descriptor

open DeviceGen.Wire
open DeviceGen.Wire.Reader (Row)

variable {kind : Kind} {budget : Nat}

/-- **The lengths of written fields that are read have 64 bits.** -/
theorem length_lt_of_row {pieces : List (Nat × List UInt8)}
    (hnumbers : ∀ p ∈ pieces, 0 < p.1 ∧ p.1 < 2 ^ 29)
    {fields : List (Option (Occurrence kind.fields))}
    (h : Row (fieldReader budget kind) (pieces.flatMap fun p => writeDelimited p.1 p.2) fields) :
    ∀ p ∈ pieces, p.2.length < 2 ^ 64 := by
  induction pieces generalizing fields with
  | nil => simp
  | cons p pieces ih =>
      obtain ⟨h₀, h₁⟩ := hnumbers p List.mem_cons_self
      rw [List.flatMap_cons] at h
      have hlen : p.2.length < 2 ^ 64 := by
        generalize hwhole : writeDelimited p.1 p.2 ++ _ = whole at h
        cases h with
        | nil =>
            have hne := (Key.write_ne_nil ⟨p.1, .delimited⟩)
            simp [writeDelimited, hne] at hwhole
        | cons first nonempty others =>
            obtain ⟨levels, number, htaken⟩ := (takes_fieldReader budget kind).form_of_reads first
            exact htaken.length_lt h₀ h₁ hwhole.symm
      obtain ⟨answer, others, rfl, -, hothers⟩ :=
        row_field (isField_writeDelimited h₀ h₁ hlen) h
      have hrest := ih (fun q hq => hnumbers q (List.mem_cons_of_mem p hq)) hothers
      intro q hq
      rcases List.mem_cons.mp hq with rfl | hq
      · exact hlen
      · exact hrest q hq

/-- **A row of fields at the front of fields ends where one of them does.** -/
theorem row_take {pieces : List (List UInt8)} (hpieces : ∀ p ∈ pieces, ∃ levels number,
      IsField levels number p)
    {bytes after : List UInt8} {fields : List (Option (Occurrence kind.fields))}
    (h : Row (fieldReader budget kind) bytes fields) (hsame : bytes ++ after = pieces.flatten) :
    ∃ k ≤ pieces.length, bytes = (pieces.take k).flatten := by
  induction h generalizing pieces with
  | nil => exact ⟨0, Nat.zero_le _, rfl⟩
  | @cons taken more answer others first nonempty later ih =>
      cases pieces with
      | nil => simp [nonempty] at hsame
      | cons p pieces =>
          obtain ⟨levels, number, hp⟩ := hpieces p List.mem_cons_self
          obtain ⟨levels', number', htaken⟩ := (takes_fieldReader budget kind).form_of_reads first
          rw [List.append_assoc, List.flatten_cons] at hsame
          obtain ⟨rfl, -, hrest⟩ := htaken.unique hp hsame
          obtain ⟨k, hk, rfl⟩ := ih (fun q hq => hpieces q (List.mem_cons_of_mem _ hq)) hrest
          exact ⟨k + 1, Nat.succ_le_succ hk, by rw [List.take_succ_cons, List.flatten_cons]⟩

end DeviceGen.Descriptor
