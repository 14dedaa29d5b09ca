/-
What the helper functions of generated code do to a buffer.

The helpers set and read single bytes and put words together from them by shifts.  They
are followed here byte by byte, with a result only while they stay inside the buffer.
What they come to is that a word of four or eight bytes is replaced, or read, with its
low byte first, and that nothing around it matters or changes.
-/
import DeviceGen.Proofs.LittleEndian

namespace DeviceGen.C

open LittleEndian (bytes value)

/-! ### The helpers -/

/-- Sets a byte of a buffer. -/
def setAt (offset : Nat) (b : UInt8) (buf : List UInt8) : Option (List UInt8) :=
  if offset < buf.length then some (buf.set offset b) else none

/-- Puts a word of four bytes, one after the other. -/
def putU32 (offset : Nat) (v : UInt32) (buf : List UInt8) : Option (List UInt8) := do
  let buf ← setAt offset v.toUInt8 buf
  let buf ← setAt (offset + 1) (v >>> 8).toUInt8 buf
  let buf ← setAt (offset + 2) (v >>> 16).toUInt8 buf
  setAt (offset + 3) (v >>> 24).toUInt8 buf

/-- Gets a word of four bytes. -/
def getU32 (offset : Nat) (buf : List UInt8) : Option UInt32 := do
  let b₀ ← buf[offset]?
  let b₁ ← buf[offset + 1]?
  let b₂ ← buf[offset + 2]?
  let b₃ ← buf[offset + 3]?
  return b₀.toUInt32 ||| b₁.toUInt32 <<< 8 ||| b₂.toUInt32 <<< 16 ||| b₃.toUInt32 <<< 24

/-- Puts a word of eight bytes, the low half first. -/
def putU64 (offset : Nat) (v : UInt64) (buf : List UInt8) : Option (List UInt8) := do
  let buf ← putU32 offset v.toUInt32 buf
  putU32 (offset + 4) (v >>> 32).toUInt32 buf

/-- Gets a word of eight bytes. -/
def getU64 (offset : Nat) (buf : List UInt8) : Option UInt64 := do
  let low ← getU32 offset buf
  let high ← getU32 (offset + 4) buf
  return low.toUInt64 ||| high.toUInt64 <<< 32

/-! ### What they come to -/

theorem setAt_run (done : List UInt8) (old b : UInt8) (rest : List UInt8) :
    setAt done.length b (done ++ old :: rest) = some (done ++ b :: rest) := by
  unfold setAt
  rw [if_pos (by simp), List.set_append_right _ _ (Nat.le_refl _), Nat.sub_self]
  rfl

private theorem bytes_four (v : UInt32) :
    bytes 4 v.toNat
      = [v.toUInt8, (v >>> 8).toUInt8, (v >>> 16).toUInt8, (v >>> 24).toUInt8] := by
  have hbyte (n : Nat) (b : UInt8) (h : b.toNat = n % 256) : UInt8.ofNat (n % 256) = b := by
    rw [← h, UInt8.ofNat_toNat]
  simp only [bytes, List.cons.injEq, and_true]
  refine ⟨hbyte _ _ ?_, hbyte _ _ ?_, hbyte _ _ ?_, hbyte _ _ ?_⟩
  · simp
  · simp [Nat.shiftRight_eq_div_pow]
  · simp [Nat.shiftRight_eq_div_pow, Nat.div_div_eq_div_mul]
  · simp [Nat.shiftRight_eq_div_pow, Nat.div_div_eq_div_mul]

/-- A word of four bytes is replaced by the bytes of the number. -/
theorem putU32_run (done : List UInt8) {old : List UInt8} (hold : old.length = 4)
    (rest : List UInt8) (v : UInt32) :
    putU32 done.length v (done ++ old ++ rest) = some (done ++ bytes 4 v.toNat ++ rest) := by
  obtain ⟨a, b, c, d, rfl⟩ : ∃ a b c d, old = [a, b, c, d] := by
    match old, hold with
    | [a, b, c, d], _ => exact ⟨a, b, c, d, rfl⟩
  have hset (before : List UInt8) (i : Nat) (hi : before.length = done.length + i)
      (x y : UInt8) (after : List UInt8) :
      setAt (done.length + i) y (before ++ x :: after) = some (before ++ y :: after) := by
    rw [← hi, setAt_run]
  rw [bytes_four]
  unfold putU32
  have h₀ := hset done 0 rfl a v.toUInt8 (b :: c :: d :: rest)
  have h₁ := hset (done ++ [v.toUInt8]) 1 (by simp) b (v >>> 8).toUInt8 (c :: d :: rest)
  have h₂ := hset (done ++ [v.toUInt8, (v >>> 8).toUInt8]) 2 (by simp) c
    (v >>> 16).toUInt8 (d :: rest)
  have h₃ := hset (done ++ [v.toUInt8, (v >>> 8).toUInt8, (v >>> 16).toUInt8]) 3 (by simp) d
    (v >>> 24).toUInt8 rest
  simp only [List.append_assoc, List.cons_append, List.nil_append, Nat.add_zero] at h₀ h₁ h₂ h₃ ⊢
  simp only [h₀, h₁, h₂, h₃, Option.bind_eq_bind, Option.bind_some]

/-- A number of eight bytes is its low half before its high half. -/
private theorem bytes_eight (v : UInt64) :
    bytes 8 v.toNat = bytes 4 v.toUInt32.toNat ++ bytes 4 (v >>> 32).toUInt32.toNat := by
  have hlow : v.toUInt32.toNat = v.toNat % 256 ^ 4 := by simp
  have hhigh : (v >>> 32).toUInt32.toNat = v.toNat / 256 ^ 4 := by
    have hv := v.toNat_lt
    simp only [UInt64.toNat_toUInt32, UInt64.toNat_shiftRight, Nat.shiftRight_eq_div_pow]
    show v.toNat / 2 ^ 32 % 2 ^ 32 = v.toNat / 2 ^ 32
    omega
  rw [hlow, hhigh, LittleEndian.bytes_mod, ← LittleEndian.bytes_append]

/-- A word of eight bytes is replaced by the bytes of the number. -/
theorem putU64_run (done : List UInt8) {old : List UInt8} (hold : old.length = 8)
    (rest : List UInt8) (v : UInt64) :
    putU64 done.length v (done ++ old ++ rest) = some (done ++ bytes 8 v.toNat ++ rest) := by
  have hsplit : old = old.take 4 ++ old.drop 4 := (List.take_append_drop 4 old).symm
  have hlow : (old.take 4).length = 4 := by rw [List.length_take, hold]; rfl
  have hhigh : (old.drop 4).length = 4 := by rw [List.length_drop, hold]
  have hput₁ := putU32_run done hlow (old.drop 4 ++ rest) v.toUInt32
  have hput₂ := putU32_run (done ++ bytes 4 v.toUInt32.toNat) hhigh rest (v >>> 32).toUInt32
  rw [List.length_append, LittleEndian.length_bytes] at hput₂
  rw [bytes_eight, hsplit]
  simp only [List.append_assoc] at hput₁ hput₂ ⊢
  unfold putU64
  rw [hput₁]
  exact hput₂

private theorem or_shiftLeft {low : Nat} (n high : Nat) (h : low < 2 ^ n) :
    low ||| high <<< n = low + 2 ^ n * high := by
  rw [Nat.or_comm, ← Nat.shiftLeft_add_eq_or_of_lt h, Nat.shiftLeft_eq, Nat.add_comm,
    Nat.mul_comm]

/-- What is got from four bytes is the number they stand for. -/
theorem getU32_run (done : List UInt8) {word : List UInt8} (hword : word.length = 4)
    (rest : List UInt8) :
    getU32 done.length (done ++ word ++ rest) = some (UInt32.ofNat (value word)) := by
  obtain ⟨a, b, c, d, rfl⟩ : ∃ a b c d, word = [a, b, c, d] := by
    match word, hword with
    | [a, b, c, d], _ => exact ⟨a, b, c, d, rfl⟩
  have hget (i : Nat) : (done ++ [a, b, c, d] ++ rest)[done.length + i]?
      = ([a, b, c, d] ++ rest)[i]? := by
    rw [List.append_assoc, List.getElem?_append_right (Nat.le_add_right _ _),
      Nat.add_sub_cancel_left]
  unfold getU32
  have h₀ := hget 0
  rw [Nat.add_zero] at h₀
  rw [h₀, hget 1, hget 2, hget 3]
  refine congrArg some (UInt32.toNat_inj.mp ?_)
  have ha := a.toNat_lt
  have hb := b.toNat_lt
  have hc := c.toNat_lt
  have hd := d.toNat_lt
  have hvalue : value [a, b, c, d]
      = a.toNat + 2 ^ 8 * b.toNat + 2 ^ 16 * c.toNat + 2 ^ 24 * d.toNat := by
    simp only [value]
    omega
  have hshift (x : UInt8) (n : UInt32) (hn : n.toNat ≤ 24) :
      (x.toUInt32 <<< n).toNat = x.toNat <<< n.toNat := by
    have hx := x.toNat_lt
    have hpow : 2 ^ n.toNat ≤ 2 ^ 24 := Nat.pow_le_pow_right (by decide) hn
    have hroom : x.toNat * 2 ^ n.toNat ≤ 255 * 2 ^ 24 := Nat.mul_le_mul (by omega) hpow
    rw [UInt32.toNat_shiftLeft, UInt8.toNat_toUInt32, Nat.mod_eq_of_lt (by omega : n.toNat < 32),
      Nat.shiftLeft_eq, Nat.mod_eq_of_lt (by omega)]
  simp only [UInt32.toNat_or, hshift _ 8 (by decide), hshift _ 16 (by decide),
    hshift _ 24 (by decide), UInt8.toNat_toUInt32, UInt32.toNat_ofNat', hvalue]
  show a.toNat ||| b.toNat <<< 8 ||| c.toNat <<< 16 ||| d.toNat <<< 24 = _
  rw [or_shiftLeft 8 b.toNat (by omega), or_shiftLeft 16 c.toNat (by omega),
    or_shiftLeft 24 d.toNat (by omega)]
  omega

/-- What is got from eight bytes is the number they stand for. -/
theorem getU64_run (done : List UInt8) {word : List UInt8} (hword : word.length = 8)
    (rest : List UInt8) :
    getU64 done.length (done ++ word ++ rest) = some (UInt64.ofNat (value word)) := by
  have hsplit : word = word.take 4 ++ word.drop 4 := (List.take_append_drop 4 word).symm
  have hlow : (word.take 4).length = 4 := by rw [List.length_take, hword]; rfl
  have hhigh : (word.drop 4).length = 4 := by rw [List.length_drop, hword]
  have hget₁ := getU32_run done hlow (word.drop 4 ++ rest)
  have hget₂ := getU32_run (done ++ word.take 4) hhigh rest
  rw [List.length_append, hlow] at hget₂
  have hvalue : value word = value (word.take 4) + 2 ^ 32 * value (word.drop 4) := by
    have h := LittleEndian.value_append (word.take 4) (word.drop 4)
    rwa [← hsplit, hlow] at h
  have hl := LittleEndian.value_lt (word.take 4)
  have hh := LittleEndian.value_lt (word.drop 4)
  rw [hlow] at hl
  rw [hhigh] at hh
  rw [hvalue]
  conv => lhs; rw [hsplit]
  unfold getU64
  simp only [List.append_assoc] at hget₁ hget₂ ⊢
  rw [hget₁, Option.bind_eq_bind, Option.bind_some, hget₂]
  refine congrArg some (UInt64.toNat_inj.mp ?_)
  generalize value (word.take 4) = low at hl ⊢
  generalize value (word.drop 4) = high at hh ⊢
  have hlownat : (UInt32.ofNat low).toUInt64.toNat = low := by
    rw [UInt32.toNat_toUInt64, UInt32.toNat_ofNat']
    exact Nat.mod_eq_of_lt hl
  have hhighnat : (UInt32.ofNat high).toUInt64.toNat = high := by
    rw [UInt32.toNat_toUInt64, UInt32.toNat_ofNat']
    exact Nat.mod_eq_of_lt hh
  have hshift : ((UInt32.ofNat high).toUInt64 <<< 32).toNat = high <<< 32 := by
    rw [UInt64.toNat_shiftLeft, hhighnat]
    show high <<< 32 % 2 ^ 64 = high <<< 32
    rw [Nat.shiftLeft_eq]
    omega
  rw [UInt64.toNat_or, hlownat, hshift, or_shiftLeft 32 high hl, UInt64.toNat_ofNat']
  omega

end DeviceGen.C
