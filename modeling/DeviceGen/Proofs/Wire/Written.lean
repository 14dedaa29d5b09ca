/-
What is written is read.

Every writer of the wire format has its reader, and here the two are put together: a
variable-length integer, a key, a value of each scalar type, and a row behind its
length.  The only condition is on numbers that stand for lengths.  A reader keeps 64
bits, so a text, a byte string or a row has to be shorter than 2⁶⁴ bytes; `Scalar.Fits`
says so for values, and everything else that is written fits by its type.
-/
import DeviceGen.Proofs.LittleEndian
import DeviceGen.Proofs.Wire.Forms

namespace DeviceGen.Wire

open Reader (Reads Row Breaks Stops)

/-! ### Variable-length integers -/

namespace Varint

theorem write_ne_nil (n : Nat) : write n ≠ [] := by
  rw [write]
  split <;> simp

private theorem formWithin_byte (places : Nat) {n : Nat} (h : n < 128) :
    FormWithin places n [UInt8.ofNat n] := by
  have hbyte : (UInt8.ofNat n).toNat = n := by
    rw [UInt8.toNat_ofNat']
    omega
  have hlast : FormWithin places (UInt8.ofNat n).toNat [UInt8.ofNat n] := .last (by omega)
  rwa [hbyte] at hlast

/-- With `places` further bytes allowed, seven bits for each of them and one more fit. -/
private theorem formWithin_write (places n : Nat) (h : n < 2 * 128 ^ places) :
    FormWithin places n (write n) := by
  induction places generalizing n with
  | zero =>
      rw [write, if_pos (by omega)]
      exact formWithin_byte 0 (by omega)
  | succ places ih =>
      rw [write]
      by_cases hn : n < 128
      · rw [if_pos hn]
        exact formWithin_byte (places + 1) hn
      · have hbyte : (UInt8.ofNat (n % 128 + 128)).toNat = n % 128 + 128 := by
          rw [UInt8.toNat_ofNat']
          omega
        have hhigh : n / 128 < 2 * 128 ^ places := by
          rw [Nat.pow_succ] at h
          omega
        have hlow : 128 ≤ (UInt8.ofNat (n % 128 + 128)).toNat := by omega
        have hmore := FormWithin.more hlow (ih (n / 128) hhigh)
        rw [hbyte, Nat.add_sub_cancel, Nat.mod_add_div] at hmore
        rwa [if_neg hn]

/-- What is written is the shortest form of an integer of 64 bits. -/
theorem form_write {n : Nat} (h : n < 2 ^ 64) : Form n (write n) :=
  ⟨formWithin_write 9 n (by omega), h⟩

/-- An integer of 64 bits is read as it was written. -/
theorem reads_write {n : Nat} (h : n < 2 ^ 64) : Reads read (write n) n := (form_write h).reads

end Varint

/-! ### Keys -/

namespace Key

theorem write_ne_nil (key : Key) : write key ≠ [] := Varint.write_ne_nil _

theorem form_write {key : Key} (h₀ : 0 < key.number) (h₁ : key.number < 2 ^ 29) :
    Form key (write key) := by
  have hcode := key.wireType.code_lt
  exact ⟨h₀, h₁, Varint.form_write (by omega)⟩

theorem reads_write {key : Key} (h₀ : 0 < key.number) (h₁ : key.number < 2 ^ 29) :
    Reads read (write key) key :=
  (form_write h₀ h₁).reads

end Key

/-! ### Values -/

namespace Scalar

/-- The length of a value, if one is written, has 64 bits. -/
def Fits : (s : Scalar) → s.Carrier → Prop
  | text, t => (utf8 t).length < 2 ^ 64
  | bytes, bs => bs.length < 2 ^ 64
  | _, _ => True

theorem ofUtf8?_utf8 (t : String) : ofUtf8? (utf8 t) = some t := by
  have hbytes : (⟨(utf8 t).toArray⟩ : ByteArray) = t.toByteArray := by simp [utf8]
  rw [ofUtf8?, hbytes, String.fromUTF8?, dif_pos t.isValidUTF8]
  exact congrArg some (String.toByteArray_inj.mp rfl)

theorem wrap64_lt (n : Int) : wrap64 n < 2 ^ 64 := by
  unfold wrap64
  omega

theorem ofNat_wrap64_int32 (n : Int32) : Int32.ofNat (wrap64 n.toInt) = n := by
  have hmod : (wrap64 n.toInt : Int) = n.toInt % 2 ^ 64 := Int.toNat_of_nonneg (by omega)
  apply Int32.toInt.inj
  rw [Int32.toInt_ofNat', hmod, Int.bmod_def]
  have := n.toInt_lt
  have := n.le_toInt
  simp only [Int32.size]
  omega

theorem ofNat_wrap64_int64 (n : Int64) : Int64.ofNat (wrap64 n.toInt) = n := by
  have hmod : (wrap64 n.toInt : Int) = n.toInt % 2 ^ 64 := Int.toNat_of_nonneg (by omega)
  apply Int64.toInt.inj
  rw [Int64.toInt_ofNat', hmod, Int.bmod_def]
  have := n.toInt_lt
  have := n.le_toInt
  simp only [Int64.size]
  omega

theorem write_ne_nil : (s : Scalar) → (value : s.Carrier) → s.write value ≠ []
  | int32, _ | int64, _ | uint64, _ | bool, _ => Varint.write_ne_nil _
  | double, _ => by simp [write, LittleEndian.bytes]
  | text, _ | bytes, _ => by simp [write, delimited, Varint.write_ne_nil]

private theorem reads_int32 (n : Int32) : Reads (read .int32) (write .int32 n) n := by
  intro rest
  show (Varint.read >>= fun v => pure (Int32.ofNat v)) _ = _
  rw [write, Reader.bind_ok (Varint.reads_write (wrap64_lt _) rest), ofNat_wrap64_int32]
  rfl

private theorem reads_int64 (n : Int64) : Reads (read .int64) (write .int64 n) n := by
  intro rest
  show (Varint.read >>= fun v => pure (Int64.ofNat v)) _ = _
  rw [write, Reader.bind_ok (Varint.reads_write (wrap64_lt _) rest), ofNat_wrap64_int64]
  rfl

private theorem reads_uint64 (n : UInt64) : Reads (read .uint64) (write .uint64 n) n := by
  intro rest
  show (Varint.read >>= fun v => pure (UInt64.ofNat v)) _ = _
  rw [write, Reader.bind_ok (Varint.reads_write n.toNat_lt rest), UInt64.ofNat_toNat]
  rfl

private theorem reads_bool (b : Bool) : Reads (read .bool) (write .bool b) b := by
  intro rest
  have hb : b.toNat < 2 ^ 64 := by cases b <;> decide
  show (Varint.read >>= fun v => pure (decide (v ≠ 0))) _ = _
  rw [write, Reader.bind_ok (Varint.reads_write hb rest)]
  cases b <;> rfl

private theorem reads_double (d : Double) : Reads (read .double) (write .double d) d := by
  intro rest
  have htake : Reads (Reader.take 8) (LittleEndian.bytes 8 d.bits.toNat)
      (LittleEndian.bytes 8 d.bits.toNat) := by
    have := Reader.reads_take (LittleEndian.bytes 8 d.bits.toNat)
    rwa [LittleEndian.length_bytes] at this
  show (Reader.take 8 >>= fun bs => pure (Double.mk (UInt64.ofNat (LittleEndian.value bs)))) _ = _
  rw [write, Reader.bind_ok (htake rest), LittleEndian.value_bytes,
    Nat.mod_eq_of_lt (by have := d.bits.toNat_lt; omega), UInt64.ofNat_toNat]
  rfl

/-- Bytes behind their number are read as they are. -/
private theorem reads_delimited {bs : List UInt8} (h : bs.length < 2 ^ 64) :
    Reads (Varint.read >>= Reader.take) (delimited bs) bs :=
  (Varint.reads_write h).bind (Reader.reads_take bs)

private theorem reads_text {t : String} (h : (utf8 t).length < 2 ^ 64) :
    Reads (read .text) (write .text t) t := by
  intro rest
  show (Varint.read >>= fun n => Reader.take n >>= fun bs => _) _ = _
  rw [← bind_assoc, write, Reader.bind_ok (reads_delimited h rest), ofUtf8?_utf8]
  rfl

/-- **A value is read as it was written.** -/
theorem reads_write : (s : Scalar) → (value : s.Carrier) → s.Fits value →
    Reads s.read (s.write value) value
  | int32, n, _ => reads_int32 n
  | int64, n, _ => reads_int64 n
  | uint64, n, _ => reads_uint64 n
  | bool, b, _ => reads_bool b
  | double, d, _ => reads_double d
  | text, _, h => reads_text h
  | bytes, _, h => reads_delimited h

end Scalar

/-! ### Rows behind their length -/

namespace Reader

variable {α : Type} {thing : Reader α}

/-- A row behind its length is read whole. -/
theorem Row.delimited {bytes : List UInt8} {as : List α} (h : Row thing bytes as)
    (hlen : bytes.length < 2 ^ 64) : Reads (Reader.delimited thing) (Scalar.delimited bytes) as :=
  h.reads_delimited (Varint.form_write hlen)

/-- A row that breaks is not read behind its length either. -/
theorem Breaks.delimited {bytes : List UInt8} {cause : Cause} (h : Breaks thing bytes cause)
    (hlen : bytes.length < 2 ^ 64) :
    Stops (Reader.delimited thing) (Scalar.delimited bytes) cause := by
  intro rest
  obtain ⟨path, hpath⟩ := h.downTo rest
  refine ⟨path, ?_⟩
  unfold Scalar.delimited
  rw [delimited_run (Varint.form_write hlen), bind_error hpath]

end Reader

end DeviceGen.Wire
