/-
The forms that bytes can have.

What is written has one form, what can be read has many, because an integer may be
padded, and with it a key or a length.  Here the forms of integers, keys and values are
described without a reader, and the readers are compared with them: each understands
the bytes of its form and takes nothing else.
-/
import Mathlib.Algebra.Group.Nat.Defs
import DeviceGen.Proofs.Wire.Taken
import DeviceGen.Wire.Scalar

namespace DeviceGen.Wire

open Reader (Reads Row Takes of_bind_ok)

/-! ### Variable-length integers -/

namespace Varint

/-- The bytes stand for an integer, and there are at most `places + 1` of them: seven bits
in each, the low ones first, and the high bit set in all but the last. -/
inductive FormWithin : (places n : Nat) → List UInt8 → Prop where
  | last {places : Nat} {byte : UInt8} (hbyte : byte.toNat < 128) :
      FormWithin places byte.toNat [byte]
  | more {places n : Nat} {byte : UInt8} {bytes : List UInt8} (hbyte : 128 ≤ byte.toNat)
      (others : FormWithin places n bytes) :
      FormWithin (places + 1) (byte.toNat - 128 + 128 * n) (byte :: bytes)

/-- The bytes are a form of an integer of 64 bits, padded or not. -/
structure Form (n : Nat) (bytes : List UInt8) : Prop where
  within : FormWithin 9 n bytes
  lt : n < 2 ^ 64

theorem FormWithin.ne_nil {places n : Nat} {bytes : List UInt8} (h : FormWithin places n bytes) :
    bytes ≠ [] := by
  cases h <;> simp

theorem Form.ne_nil {n : Nat} {bytes : List UInt8} (h : Form n bytes) : bytes ≠ [] :=
  h.within.ne_nil

/-- The last byte that may be used holds one bit, and each byte before it seven. -/
private theorem readWithin_of_form {places n : Nat} {bytes : List UInt8}
    (h : FormWithin places n bytes) (hn : n < 2 * 128 ^ places) (rest : List UInt8) :
    readWithin places (Input.ofBytes (bytes ++ rest)) = .ok (n, Input.ofBytes rest) := by
  induction h with
  | @last places byte hbyte =>
      have hlow : ¬ (places = 0 ∧ 2 ≤ byte.toNat) := by
        rintro ⟨rfl, hle⟩
        rw [Nat.pow_zero] at hn
        omega
      rw [List.singleton_append, readWithin, Input.next?_cons]
      simp only
      rw [if_pos hbyte, if_neg hlow]
  | @more places n byte bytes hbyte others ih =>
      have hhigh : n < 2 * 128 ^ places := by
        rw [Nat.pow_succ] at hn
        omega
      rw [List.cons_append, readWithin, Input.next?_cons]
      simp only
      rw [if_neg (by omega)]
      show (readWithin places (Input.ofBytes (bytes ++ rest)) >>= _) = _
      rw [ih hhigh]
      rfl

private theorem form_of_readWithin (places : Nat) {input rest : Input} {n : Nat}
    (h : readWithin places input = .ok (n, rest)) :
    ∃ taken, input.bytes = taken ++ rest.bytes ∧ FormWithin places n taken
      ∧ n < 2 * 128 ^ places := by
  induction places generalizing input n with
  | zero =>
      obtain ⟨bytes, rfl⟩ : ∃ bytes, input = Input.ofBytes bytes :=
        ⟨input.bytes, input.ofBytes_bytes.symm⟩
      cases bytes with
      | nil => cases h
      | cons byte bytes =>
          rw [readWithin, Input.next?_cons] at h
          simp only at h
          split at h
          · rename_i hbyte
            split at h
            · cases h
            · rename_i hlow
              cases h
              exact ⟨[byte], rfl, .last hbyte, Nat.lt_of_not_le fun hle => hlow ⟨trivial, hle⟩⟩
          · cases h
  | succ places ih =>
      obtain ⟨bytes, rfl⟩ : ∃ bytes, input = Input.ofBytes bytes :=
        ⟨input.bytes, input.ofBytes_bytes.symm⟩
      cases bytes with
      | nil => cases h
      | cons byte bytes =>
          have hpos : 0 < 128 ^ places := Nat.pow_pos (by decide)
          rw [readWithin, Input.next?_cons] at h
          simp only at h
          split at h
          · rename_i hbyte
            rw [if_neg (by omega)] at h
            cases h
            refine ⟨[byte], rfl, .last hbyte, ?_⟩
            rw [Nat.pow_succ]
            omega
          · rename_i hbyte
            cases hmore : readWithin places (Input.ofBytes bytes) with
            | error e =>
                rw [hmore] at h
                cases h
            | ok p =>
                rw [hmore] at h
                cases h
                obtain ⟨taken, htaken, hform, hlt⟩ := ih hmore
                refine ⟨byte :: taken, ?_, .more (by omega) hform, ?_⟩
                · exact congrArg (byte :: ·) htaken
                · have := byte.toNat_lt
                  rw [Nat.pow_succ]
                  omega

/-- A form of an integer is read as the integer. -/
theorem Form.reads {n : Nat} {bytes : List UInt8} (h : Form n bytes) : Reads read bytes n :=
  readWithin_of_form h.within (by have := h.lt; omega)

theorem takes_read : Takes read fun bytes n => Form n bytes := by
  intro input rest n h
  obtain ⟨taken, htaken, hform, hlt⟩ := form_of_readWithin 9 h
  have hwhole : Form n taken := ⟨hform, by omega⟩
  exact ⟨taken, htaken, hwhole, hwhole.reads⟩

end Varint

/-! ### Keys -/

/-- The code of a wire type determines it. -/
theorem WireType.code_of_ofCode? {code : Nat} {w : WireType} (h : ofCode? code = some w) :
    w.code = code := by
  unfold ofCode? at h
  split at h <;> cases h <;> rfl

namespace Key

/-- The bytes are a form of a key with a number that fields can have. -/
structure Form (key : Key) (bytes : List UInt8) : Prop where
  pos : 0 < key.number
  lt : key.number < 2 ^ 29
  varint : Varint.Form (8 * key.number + key.wireType.code) bytes

theorem of_ofNat_ok {n : Nat} {key : Key} (h : ofNat n = .ok key) :
    0 < key.number ∧ key.number < 2 ^ 29 ∧ n = 8 * key.number + key.wireType.code := by
  unfold ofNat at h
  split at h
  · cases h
  · split at h
    · cases h
    · rename_i w hcode
      split at h
      · cases h
      · cases h
        have hw := WireType.code_of_ofCode? hcode
        simp only
        omega

theorem Form.reads {key : Key} {bytes : List UInt8} (h : Form key bytes) :
    Reads read bytes key := by
  intro rest
  unfold read
  rw [Reader.bind_ok (h.varint.reads rest), ofNat_write key h.pos h.lt]
  rfl

theorem takes_read : Takes read fun bytes key => Form key bytes := by
  intro input rest key h
  obtain ⟨n, middle, hn, h⟩ := of_bind_ok h
  obtain ⟨taken, htaken, hform, -⟩ := Varint.takes_read hn
  cases hkey : ofNat n with
  | error cause =>
      simp only [hkey] at h
      cases h
  | ok key' =>
      simp only [hkey] at h
      cases h
      obtain ⟨hpos, hlt, rfl⟩ := of_ofNat_ok hkey
      have hwhole : Form key taken := ⟨hpos, hlt, hform⟩
      exact ⟨taken, htaken, hwhole, hwhole.reads⟩

end Key

/-! ### Values -/

/-- The bytes are those of a value that is delimited in some way; a group is none. -/
inductive Payload : WireType → List UInt8 → Prop where
  | varint {n : Nat} {bytes : List UInt8} (h : Varint.Form n bytes) : Payload .varint bytes
  | fixed32 {bytes : List UInt8} (h : bytes.length = 4) : Payload .fixed32 bytes
  | fixed64 {bytes : List UInt8} (h : bytes.length = 8) : Payload .fixed64 bytes
  | delimited {length body : List UInt8} (h : Varint.Form body.length length) :
      Payload .delimited (length ++ body)

theorem Payload.ne_nil {w : WireType} {bytes : List UInt8} (h : Payload w bytes) :
    bytes ≠ [] := by
  cases h with
  | varint h => exact h.ne_nil
  | fixed32 h => rintro rfl; simp at h
  | fixed64 h => rintro rfl; simp at h
  | delimited h => simp [h.ne_nil]

/-- A length and as many bytes. -/
private theorem takes_delimited :
    Takes (Varint.read >>= Reader.take) fun bytes a =>
      ∃ length, bytes = length ++ a ∧ Varint.Form a.length length := by
  refine (Varint.takes_read.bind Reader.takes_take).mono ?_
  rintro bytes a ⟨length, body, n, rfl, hform, rfl, rfl⟩
  exact ⟨length, rfl, hform⟩

/-- A value of a scalar type is delimited as its type says. -/
theorem Scalar.takes_read (s : Scalar) : Takes s.read fun bytes _ => Payload s.wireType bytes := by
  have varint {α : Type} (f : Nat → α) :
      Takes (Varint.read >>= fun n => pure (f n)) fun bytes _ => Payload .varint bytes :=
    (Varint.takes_read.bind_pure f).mono fun _ _ ⟨_, hform, _⟩ => .varint hform
  cases s with
  | int32 => exact varint _
  | int64 => exact varint _
  | uint64 => exact varint _
  | bool => exact varint _
  | double =>
      exact ((Reader.takes_take 8).bind_pure _).mono fun _ _ ⟨_, ⟨_, hlen⟩, _⟩ => .fixed64 hlen
  | text =>
      show Takes (Varint.read >>= fun n => Reader.take n >>= _) _
      rw [← bind_assoc]
      -- The bytes are there; that they are a text takes no more of them.
      refine Takes.mono (takes_delimited.bind (R := fun _ bytes (_ : String) => bytes = [])
        fun bs => ?_) ?_
      · cases ofUtf8? bs with
        | none => exact Takes.fail _
        | some t => exact (Takes.pure t).mono fun _ _ h => h.1
      rintro bytes t ⟨_, _, bs, rfl, ⟨length, rfl, hform⟩, rfl⟩
      rw [List.append_nil]
      exact .delimited hform
  | bytes =>
      refine takes_delimited.mono ?_
      rintro bytes a ⟨length, rfl, hform⟩
      exact .delimited hform

/-! ### Rows behind their length -/

namespace Reader

variable {α : Type} {thing : Reader α} {P : List UInt8 → α → Prop}

/-- The length passes its check, and the row is read down to what follows it. -/
theorem delimited_run {length bytes : List UInt8} (h : Varint.Form bytes.length length)
    (rest : List UInt8) :
    delimited thing (Input.ofBytes (length ++ bytes ++ rest))
      = (downTo rest.length thing >>= fun things => do
          if (← remaining) < rest.length then fail .overrun
          else return things) (Input.ofBytes (bytes ++ rest)) := by
  have hsize : (bytes ++ rest).length - bytes.length = rest.length := by simp
  unfold delimited
  rw [List.append_assoc, bind_ok (h.reads (bytes ++ rest)), bind_ok (remaining_run _),
    Input.size_ofBytes, if_neg (by simp), hsize]

/-- A row behind its length is read whole. -/
theorem Row.reads_delimited {length bytes : List UInt8} {as : List α} (h : Row thing bytes as)
    (hlength : Varint.Form bytes.length length) :
    Reads (delimited thing) (length ++ bytes) as := by
  intro rest
  rw [delimited_run hlength, bind_ok (h.downTo rest), bind_ok (remaining_run _),
    if_neg (by simp)]
  rfl

/-- What was read behind a length is a row of this length. -/
theorem takes_delimited (hthing : Takes thing P) (hne : ∀ bytes a, P bytes a → bytes ≠ []) :
    Takes (delimited thing) fun taken as =>
      ∃ length bytes, taken = length ++ bytes ∧ Varint.Form bytes.length length
        ∧ Row thing bytes as := by
  intro input rest as h
  obtain ⟨n, i, hn, h⟩ := of_bind_ok h
  obtain ⟨size, j, hsize, h⟩ := of_bind_ok h
  cases hsize
  split at h
  · cases h
  · rename_i hle
    obtain ⟨things, k, hthings, h⟩ := of_bind_ok h
    obtain ⟨size, l, hsize, h⟩ := of_bind_ok h
    cases hsize
    split at h
    · cases h
    · rename_i hge
      cases h
      obtain ⟨length, hlength, hform, -⟩ := Varint.takes_read hn
      obtain ⟨hmark, bytes, hbytes, hrow⟩ := row_of_downTo hthing hne hthings
      have hsame : bytes.length = n := by
        have hsizes : i.size = bytes.length + rest.size := by
          rw [i.size_eq, rest.size_eq, hbytes, List.length_append]
        omega
      subst hsame
      refine ⟨length ++ bytes, ?_, ⟨length, bytes, rfl, hform, hrow⟩, hrow.reads_delimited hform⟩
      rw [hlength, hbytes, List.append_assoc]

end Reader

end DeviceGen.Wire
