/-
The helpers of a source, as they are read and run.

A source brings the functions that put words into a buffer and get them back.  Read off its lines,
they are the ones below, and they do byte by byte what `putU32` and the others say.  Real numbers
go through a variable of an integer type, to which their bits are copied.
-/
import DeviceGen.Can.Source
import DeviceGen.Proofs.C.Machine

namespace DeviceGen.Can

open DeviceGen.C (CType Command Datum Defines Function Gets Linkage Locals Memory Operator Parameter
  Phrase Puts Value Word callWithin getU32 getU64 putU32 putU64 setAt)

/-! ### As they are read -/

/-- The parameter for the place where a word is put or got. -/
def placeParameter : Parameter := ⟨"uint8_t", true, "buf"⟩

/-- A byte behind that place. -/
def itemAt (i : Nat) : Phrase := .item (.name "buf") (.number i false)

/-- The place of the high half of a word. -/
def highPlace : Phrase := .binary .add (.name "buf") (.number 4 false)

/-- Sets a byte to some of the bits of a word. -/
def setBits (i : Nat) (bits : Phrase) : Command := .assign (itemAt i) (.cast "uint8_t" bits)

/-- The bits of a word behind the first ones. -/
def bitsFrom (n : Nat) : Phrase := .binary .shiftRight (.name "v") (.number n false)

/-- A byte as some of the bits of a word. -/
def bitsAt (i n : Nat) : Phrase :=
  .binary .shiftLeft (.cast "uint32_t" (itemAt i)) (.number n false)

/-- The low byte of a word is put first. -/
def put32 : Function where
  result := "void"
  name := "put_u32"
  parameters := [placeParameter, ⟨"uint32_t", false, "v"⟩]
  body := [setBits 0 (.name "v"), setBits 1 (bitsFrom 8), setBits 2 (bitsFrom 16),
    setBits 3 (bitsFrom 24)]

def get32 : Function where
  result := "uint32_t"
  name := "get_u32"
  parameters := [placeParameter]
  body := [.give (.binary .or (.binary .or (.binary .or (.cast "uint32_t" (itemAt 0)) (bitsAt 1 8))
    (bitsAt 2 16)) (bitsAt 3 24))]

/-- The low half of a word is put first. -/
def put64 : Function where
  result := "void"
  name := "put_u64"
  parameters := [placeParameter, ⟨"uint64_t", false, "v"⟩]
  body := [.call "put_u32" [.name "buf", .cast "uint32_t" (.name "v")],
    .call "put_u32" [highPlace, .cast "uint32_t" (bitsFrom 32)]]

def get64 : Function where
  result := "uint64_t"
  name := "get_u64"
  parameters := [placeParameter]
  body := [.give (.binary .or (.cast "uint64_t" (.call "get_u32" (.name "buf")))
    (.binary .shiftLeft (.cast "uint64_t" (.call "get_u32" highPlace)) (.number 32 false)))]

/-- The bits of a real number are put as a word of the same width. -/
def putReal (name real word put : String) : Function where
  result := "void"
  name := name
  parameters := [placeParameter, ⟨real, false, "v"⟩]
  body := [.declare word "bits" none,
    .call "memcpy" [.address (.name "bits"), .address (.name "v"), .sizeOf "bits"],
    .call put [.name "buf", .name "bits"]]

def getReal (name real word get : String) : Function where
  result := real
  name := name
  parameters := [placeParameter]
  body := [.declare word "bits" (some (.call get (.name "buf"))),
    .declare real "v" none,
    .call "memcpy" [.address (.name "v"), .address (.name "bits"), .sizeOf "v"],
    .give (.name "v")]

/-- The helpers of a source. -/
def helpers : List Function := [
  put32, get32, put64, get64,
  putReal "put_f32" "float" "uint32_t" "put_u32", getReal "get_f32" "float" "uint32_t" "get_u32",
  putReal "put_f64" "double" "uint64_t" "put_u64", getReal "get_f64" "double" "uint64_t" "get_u64"]

/-- The helpers are read off their lines. -/
theorem defines_helperLines : Defines helperLines helpers := by
  unfold helperLines
  apply Defines.of_chars
  · -- the characters of fixed lines decide, without encoding and decoding them
    repeat apply C.lines_eq_cons
    apply C.lines_eq_nil
  all_goals decide +kernel

/-! ### As they are run -/

section Parts

variable {linkage : Linkage} {locals : Locals} {memory : Memory} {offset : Nat}

/-- What a helper has that gets a word. -/
def gettingFrom (offset : Nat) : Locals := [("buf", .holds (.place offset))]

/-- What a helper has that puts a word. -/
def putting (w : Value) (offset : Nat) : Locals :=
  [("buf", .holds (.place offset)), ("v", .holds (.value w))]

/-- A word is taken as one of the type that a helper puts. -/
theorem takeAll_word {v w : Value} {type : String} {t : CType}
    (ht : CType.named? type = some t) (h : v.convert t = some w) :
    C.takeAll [placeParameter, ⟨type, false, "v"⟩] [.place offset, .value v]
      = some (putting w offset) := by
  have hconvert := Datum.convert_value ht h
  simp [C.takeAll, placeParameter, Parameter.take, hconvert, putting]

theorem gives_bitsFrom {v : UInt32} {n : Nat}
    (hv : locals.lookup "v" = some (.holds (.value (.uint32 v)))) (hn : n < 32) :
    (bitsFrom n).Gives linkage locals memory (.value (.uint32 (v >>> UInt32.ofNat n))) :=
  .binary (.name hv) (.number (C.literal?_signed (by omega))) (Operator.apply_shiftRight v hn)

theorem run_setBits {bits : Phrase} {i : Nat} {v : UInt32} {buffer : List UInt8}
    (hbuf : locals.lookup "buf" = some (.holds (.place offset))) (hi : i < 4)
    (hbits : bits.Gives linkage locals memory (.value (.uint32 v)))
    (hset : setAt (offset + i) v.toUInt8 memory.buffer = some buffer) :
    (setBits i bits).run linkage locals memory
      = some (.goesOn locals ⟨memory.members, buffer⟩) := by
  refine Command.run_item (.placeAt hbuf (by omega)) (hbits.cast (Datum.convert_lowByte v))
    (C.toInt?_byteValue _) ?_
  rwa [C.ofInt_toNat]

theorem gives_byte {i : Nat} {b : UInt8}
    (hbuf : locals.lookup "buf" = some (.holds (.place offset))) (hi : i < 4)
    (hb : memory.buffer[offset + i]? = some b) :
    (Phrase.cast "uint32_t" (itemAt i)).Gives linkage locals memory
      (.value (.uint32 b.toUInt32)) :=
  .cast (.byteAt hbuf (by omega) hb) (Datum.convert_value rfl (Value.convert_byteValue b))

theorem gives_bitsAt {i n : Nat} {b : UInt8}
    (hbuf : locals.lookup "buf" = some (.holds (.place offset))) (hi : i < 4)
    (hb : memory.buffer[offset + i]? = some b) (hn : n < 32) :
    (bitsAt i n).Gives linkage locals memory
      (.value (.uint32 (b.toUInt32 <<< UInt32.ofNat n))) :=
  .binary (gives_byte hbuf hi hb) (.number (C.literal?_signed (by omega)))
    (Operator.apply_shiftLeft _ hn)

theorem gives_or32 {a b : Phrase} {v w : UInt32}
    (ha : a.Gives linkage locals memory (.value (.uint32 v)))
    (hb : b.Gives linkage locals memory (.value (.uint32 w))) :
    (Phrase.binary .or a b).Gives linkage locals memory (.value (.uint32 (v ||| w))) :=
  .binary ha hb rfl

theorem gives_highPlace (hbuf : locals.lookup "buf" = some (.holds (.place offset))) :
    highPlace.Gives linkage locals memory (.place (offset + 4)) :=
  .binary (.name hbuf) (.number (C.literal?_signed (by decide)))
    (Operator.apply_add offset (by decide))

/-- Half of a word is put. -/
theorem run_putHalf (h : Puts (linkage.call "put_u32") .u32) {place bits : Phrase} {v : UInt64}
    {buffer : List UInt8} (hplace : place.Gives linkage locals memory (.place offset))
    (hbits : bits.Gives linkage locals memory (.value (.uint64 v)))
    (hput : putU32 offset v.toUInt32 memory.buffer = some buffer) :
    (Command.call "put_u32" [place, .cast "uint32_t" bits]).run linkage locals memory
      = some (.goesOn locals ⟨memory.members, buffer⟩) := by
  have hlow : (Phrase.cast "uint32_t" bits).Gives linkage locals memory
      (.value (.uint32 v.toUInt32)) :=
    hbits.cast (Datum.convert_value rfl (Value.convert_narrow v))
  have harguments := C.evalAll_cons hplace (C.evalAll_cons hlow C.evalAll_nil)
  exact Command.run_call (by decide) harguments (h.run (Value.convert_self rfl) hput)

/-- Half of a word is got. -/
theorem gives_getHalf (h : Gets (linkage.call "get_u32") .u32) {place : Phrase} {v : UInt32}
    (hplace : place.Gives linkage locals memory (.place offset))
    (hget : getU32 offset memory.buffer = some v) :
    (Phrase.cast "uint64_t" (.call "get_u32" place)).Gives linkage locals memory
      (.value (.uint64 v.toUInt64)) := by
  have hvalue : Word.get offset memory.buffer .u32 = some (.uint32 v) := by
    rw [Word.get, hget, Option.map_some]
  exact .cast (.call hplace (h.run hvalue)) (Datum.convert_value rfl (Value.convert_wide v))

end Parts

section Calls

variable {linkage : Linkage}

theorem puts_put32 : Puts (put32.call linkage) .u32 := by
  refine ⟨fun {offset v w memory buffer} hw hput => ?_⟩
  obtain ⟨w, rfl⟩ : ∃ n, w = Value.uint32 n := by
    cases w with
    | uint32 n => exact ⟨n, rfl⟩
    | _ => cases hput
  simp only [Word.put, putU32, Option.bind_eq_bind, Option.bind_eq_some_iff] at hput
  obtain ⟨b₀, h₀, b₁, h₁, b₂, h₂, h₃⟩ := hput
  have hbody : Command.runAll linkage put32.body (putting (.uint32 w) offset) memory
      = some (.goesOn (putting (.uint32 w) offset) ⟨memory.members, buffer⟩) := by
    refine Command.runAll_cons (run_setBits rfl (by decide) (.name rfl) h₀) ?_
    refine Command.runAll_cons (run_setBits rfl (by decide) (gives_bitsFrom rfl (by decide)) h₁) ?_
    refine Command.runAll_cons (run_setBits rfl (by decide) (gives_bitsFrom rfl (by decide)) h₂) ?_
    refine Command.runAll_cons (run_setBits rfl (by decide) (gives_bitsFrom rfl (by decide)) h₃) ?_
    rfl
  exact C.Function.call_goesOn (takeAll_word rfl hw) hbody rfl

theorem gets_get32 : Gets (get32.call linkage) .u32 := by
  refine ⟨fun {offset v memory} hget => ?_⟩
  obtain ⟨w, hw, rfl⟩ := Option.map_eq_some_iff.mp hget
  simp only [getU32, Option.bind_eq_bind, Option.bind_eq_some_iff] at hw
  obtain ⟨b₀, h₀, b₁, h₁, b₂, h₂, b₃, h₃, hw⟩ := hw
  cases hw
  have hbody : Command.runAll linkage get32.body (gettingFrom offset) memory
      = some (.returns (.value (.uint32 (b₀.toUInt32 ||| b₁.toUInt32 <<< 8 ||| b₂.toUInt32 <<< 16
        ||| b₃.toUInt32 <<< 24))) memory) := by
    refine Command.runAll_return
      (Command.run_give (gives_or32 (gives_or32 (gives_or32 ?_ ?_) ?_) ?_)) []
    · exact gives_byte rfl (by decide) h₀
    · exact gives_bitsAt rfl (by decide) h₁ (by decide)
    · exact gives_bitsAt rfl (by decide) h₂ (by decide)
    · exact gives_bitsAt rfl (by decide) h₃ (by decide)
  exact C.Function.call_returns rfl hbody (Datum.convert_value rfl (Value.convert_self rfl))

theorem puts_put64 (h : Puts (linkage.call "put_u32") .u32) : Puts (put64.call linkage) .u64 := by
  refine ⟨fun {offset v w memory buffer} hw hput => ?_⟩
  obtain ⟨w, rfl⟩ : ∃ n, w = Value.uint64 n := by
    cases w with
    | uint64 n => exact ⟨n, rfl⟩
    | _ => cases hput
  simp only [Word.put, putU64, Option.bind_eq_bind, Option.bind_eq_some_iff] at hput
  obtain ⟨b, hlow, hhigh⟩ := hput
  have hbits {m : Memory} : (bitsFrom 32).Gives linkage (putting (.uint64 w) offset) m
      (.value (.uint64 (w >>> 32))) :=
    .binary (.name rfl) (.number (C.literal?_signed (by decide))) rfl
  have hbody : Command.runAll linkage put64.body (putting (.uint64 w) offset) memory
      = some (.goesOn (putting (.uint64 w) offset) ⟨memory.members, buffer⟩) := by
    refine Command.runAll_cons (run_putHalf h (.name rfl) (.name rfl) hlow) ?_
    refine Command.runAll_cons (run_putHalf h (gives_highPlace rfl) hbits hhigh) ?_
    rfl
  exact C.Function.call_goesOn (takeAll_word rfl hw) hbody rfl

theorem gets_get64 (h : Gets (linkage.call "get_u32") .u32) : Gets (get64.call linkage) .u64 := by
  refine ⟨fun {offset v memory} hget => ?_⟩
  obtain ⟨w, hw, rfl⟩ := Option.map_eq_some_iff.mp hget
  simp only [getU64, Option.bind_eq_bind, Option.bind_eq_some_iff] at hw
  obtain ⟨low, hlow, high, hhigh, hw⟩ := hw
  cases hw
  have hhighBits : (Phrase.binary .shiftLeft (.cast "uint64_t" (.call "get_u32" highPlace))
      (.number 32 false)).Gives linkage (gettingFrom offset) memory
      (.value (.uint64 (high.toUInt64 <<< 32))) :=
    .binary (gives_getHalf h (gives_highPlace rfl) hhigh) (.number (C.literal?_signed (by decide)))
      rfl
  have hbody : Command.runAll linkage get64.body (gettingFrom offset) memory
      = some (.returns (.value (.uint64 (low.toUInt64 ||| high.toUInt64 <<< 32))) memory) :=
    Command.runAll_return (Command.run_give
      (.binary (gives_getHalf h (.name rfl) hlow) hhighBits rfl)) []
  exact C.Function.call_returns rfl hbody (Datum.convert_value rfl (Value.convert_self rfl))

/-- The word of the same width whose numbers are the bits of a word. -/
def bitsOf : Word → Word
  | .u32 | .f32 => .u32
  | .u64 | .f64 => .u64

/-- The bits of what is put are put. -/
theorem exists_bits_of_put {word : Word} {offset : Nat} {buf buffer : List UInt8} {w : Value}
    (h : word.put offset buf w = some buffer) :
    ∃ bits : Value, bits.type = (bitsOf word).type ∧ w.image = bits.image
      ∧ (bitsOf word).put offset buf bits = some buffer := by
  cases word <;> cases w <;> first
    | cases h
    | exact ⟨.uint32 _, rfl, rfl, h⟩
    | exact ⟨.uint64 _, rfl, rfl, h⟩

/-- What is got has the bits that are got. -/
theorem exists_bits_of_get {word : Word} {offset : Nat} {buf : List UInt8} {v : Value}
    (h : word.get offset buf = some v) :
    ∃ bits : Value, bits.type = (bitsOf word).type ∧ bits.image = v.image
      ∧ v.type = word.type ∧ (bitsOf word).get offset buf = some bits := by
  cases word with
  | u32 | f32 =>
      obtain ⟨n, hn, rfl⟩ := Option.map_eq_some_iff.mp h
      exact ⟨.uint32 n, rfl, rfl, rfl, Option.map_eq_some_iff.mpr ⟨n, hn, rfl⟩⟩
  | u64 | f64 =>
      obtain ⟨n, hn, rfl⟩ := Option.map_eq_some_iff.mp h
      exact ⟨.uint64 n, rfl, rfl, rfl, Option.map_eq_some_iff.mpr ⟨n, hn, rfl⟩⟩

section Reals

variable {word : Word} {name real type other : String} (hreal : CType.named? real = some word.type)
  (htype : CType.named? type = some (bitsOf word).type)

include hreal htype

/-- A real number is put by its bits. -/
theorem puts_putReal (hother : other ≠ "memcpy") (h : Puts (linkage.call other) (bitsOf word)) :
    Puts ((putReal name real type other).call linkage) word := by
  refine ⟨fun {offset v w memory buffer} hw hput => ?_⟩
  obtain ⟨bits, hbits, himage, hput⟩ := exists_bits_of_put hput
  rw [← hbits] at htype
  have hcopied : C.evalAll linkage (("bits", .blank bits.type) :: putting w offset)
      [.address (.name "bits"), .address (.name "v"), .sizeOf "bits"] memory
      = some ([.reference "bits", .reference "v", .size bits.type.size], memory) :=
    C.evalAll_cons (.reference rfl) (C.evalAll_cons (.reference rfl)
      (C.evalAll_cons (.sizeOf rfl rfl) C.evalAll_nil))
  have hbody : Command.runAll linkage (putReal name real type other).body (putting w offset) memory
      = some (.goesOn (("bits", .holds (.value bits)) :: ("bits", .blank bits.type)
          :: putting w offset) ⟨memory.members, buffer⟩) := by
    refine Command.runAll_cons (Command.run_blank htype) ?_
    refine Command.runAll_cons (Command.run_copy hcopied (C.copy_run rfl rfl rfl himage)) ?_
    refine Command.runAll_cons
      (Command.run_call hother ?_ (h.run (Value.convert_self hbits) hput)) rfl
    exact C.evalAll_cons (.name rfl) (C.evalAll_cons (.name rfl) C.evalAll_nil)
  exact C.Function.call_goesOn (takeAll_word hreal hw) hbody rfl

/-- A real number is got by its bits. -/
theorem gets_getReal (h : Gets (linkage.call other) (bitsOf word)) :
    Gets ((getReal name real type other).call linkage) word := by
  refine ⟨fun {offset v memory} hget => ?_⟩
  obtain ⟨bits, hbits, himage, hv, hget⟩ := exists_bits_of_get hget
  rw [← hv] at hreal
  have hcopied : C.evalAll linkage
      (("v", .blank v.type) :: ("bits", .holds (.value bits)) :: gettingFrom offset)
      [.address (.name "v"), .address (.name "bits"), .sizeOf "v"] memory
      = some ([.reference "v", .reference "bits", .size v.type.size], memory) :=
    C.evalAll_cons (.reference rfl) (C.evalAll_cons (.reference rfl)
      (C.evalAll_cons (.sizeOf rfl rfl) C.evalAll_nil))
  have hbody : Command.runAll linkage (getReal name real type other).body (gettingFrom offset)
      memory = some (.returns (.value v) memory) := by
    have hconvert := Datum.convert_value htype (Value.convert_self hbits)
    refine Command.runAll_cons (Command.run_declare (.call (.name rfl) (h.run hget)) hconvert) ?_
    refine Command.runAll_cons (Command.run_blank hreal) ?_
    refine Command.runAll_cons (Command.run_copy hcopied (C.copy_run rfl rfl rfl himage)) ?_
    exact Command.runAll_return (Command.run_give (.name rfl)) []
  exact C.Function.call_returns rfl hbody (Datum.convert_value hreal (Value.convert_self rfl))

end Reals

/-! ### In a text -/

variable {defined : String → Option Nat} {others : List Function} {depth : Nat}

theorem puts_u32 : Puts (callWithin defined (helpers ++ others) (depth + 1) "put_u32") .u32 := by
  rw [C.callWithin_succ rfl]
  exact puts_put32

theorem gets_u32 : Gets (callWithin defined (helpers ++ others) (depth + 1) "get_u32") .u32 := by
  rw [C.callWithin_succ rfl]
  exact gets_get32

theorem puts_u64 : Puts (callWithin defined (helpers ++ others) (depth + 2) "put_u64") .u64 := by
  rw [C.callWithin_succ rfl]
  exact puts_put64 puts_u32

theorem gets_u64 : Gets (callWithin defined (helpers ++ others) (depth + 2) "get_u64") .u64 := by
  rw [C.callWithin_succ rfl]
  exact gets_get64 gets_u32

/-- Behind the helpers, each word is put by its own one. -/
theorem puts_helpers (word : Word) :
    Puts (callWithin defined (helpers ++ others) (depth + 3) ("put_" ++ word.text)) word := by
  cases word with
  | u32 => exact puts_u32
  | u64 => exact puts_u64
  | f32 =>
      have hfind : (helpers ++ others).find? (·.name = "put_f32")
          = some (putReal "put_f32" "float" "uint32_t" "put_u32") := rfl
      show Puts (callWithin defined (helpers ++ others) (depth + 3) "put_f32") .f32
      rw [C.callWithin_succ hfind]
      exact puts_putReal rfl rfl (by decide) puts_u32
  | f64 =>
      have hfind : (helpers ++ others).find? (·.name = "put_f64")
          = some (putReal "put_f64" "double" "uint64_t" "put_u64") := rfl
      show Puts (callWithin defined (helpers ++ others) (depth + 3) "put_f64") .f64
      rw [C.callWithin_succ hfind]
      exact puts_putReal rfl rfl (by decide) puts_u64

/-- Behind the helpers, each word is got by its own one. -/
theorem gets_helpers (word : Word) :
    Gets (callWithin defined (helpers ++ others) (depth + 3) ("get_" ++ word.text)) word := by
  cases word with
  | u32 => exact gets_u32
  | u64 => exact gets_u64
  | f32 =>
      have hfind : (helpers ++ others).find? (·.name = "get_f32")
          = some (getReal "get_f32" "float" "uint32_t" "get_u32") := rfl
      show Gets (callWithin defined (helpers ++ others) (depth + 3) "get_f32") .f32
      rw [C.callWithin_succ hfind]
      exact gets_getReal rfl rfl gets_u32
  | f64 =>
      have hfind : (helpers ++ others).find? (·.name = "get_f64")
          = some (getReal "get_f64" "double" "uint64_t" "get_u64") := rfl
      show Gets (callWithin defined (helpers ++ others) (depth + 3) "get_f64") .f64
      rw [C.callWithin_succ hfind]
      exact gets_getReal rfl rfl gets_u64

end Calls

end DeviceGen.Can
