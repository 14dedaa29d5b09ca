/-
What generated function bodies do.

A body runs on the members of a structure and on a buffer.  Values have the types of
members, real numbers being their bits.  Conversions between integers keep as many low
bits as the new type has, and a truth value is made of any integer by comparing it with
zero; a byte of the buffer is an `int` in an expression.  A run has no result where C
gives none, which is at bytes outside the buffer, and where a number would have to be
rounded, which no generated body asks for.
-/
import DeviceGen.C.Body
import DeviceGen.Proofs.C.Words

namespace DeviceGen.C

open LittleEndian (bytes value)

/-! ### Values -/

/-- A value of a member. -/
inductive Value where
  | int32 (v : Int32)
  | int64 (v : Int64)
  | uint32 (v : UInt32)
  | uint64 (v : UInt64)
  | float (bits : UInt32)
  | double (bits : UInt64)
  | bool (v : Bool)
  | enumeration (enumName : String) (v : Int32)
  deriving DecidableEq

namespace Value

/-- The type of a value. -/
def type : Value → CType
  | int32 _ => .int32
  | int64 _ => .int64
  | uint32 _ => .uint32
  | uint64 _ => .uint64
  | float _ => .float
  | double _ => .double
  | bool _ => .bool
  | enumeration enumName _ => .enumeration enumName

/-- The number that a value is, unless it is real. -/
def toInt? : Value → Option Int
  | int32 v => some v.toInt
  | int64 v => some v.toInt
  | uint32 v => some v.toNat
  | uint64 v => some v.toNat
  | float _ => none
  | double _ => none
  | bool v => some (if v then 1 else 0)
  | enumeration _ v => some v.toInt

/-- A number as a value of a type, reduced to the bits of the type. -/
def ofInt? (n : Int) : CType → Option Value
  | .int32 => some (int32 (Int32.ofInt n))
  | .int64 => some (int64 (Int64.ofInt n))
  | .uint32 => some (uint32 ⟨BitVec.ofInt 32 n⟩)
  | .uint64 => some (uint64 ⟨BitVec.ofInt 64 n⟩)
  | .float => none
  | .double => none
  | .bool => some (bool (n ≠ 0))
  | .enumeration enumName => some (enumeration enumName (Int32.ofInt n))

/-- A value as one of another type. -/
def convert (type : CType) (v : Value) : Option Value :=
  if v.type = type then some v else v.toInt?.bind fun n => ofInt? n type

/-! Between integers of one width no bit is lost, in either direction. -/

theorem convert_self {v : Value} {type : CType} (h : v.type = type) : v.convert type = some v :=
  if_pos h

@[simp] theorem convert_unsigned32 (v : Int32) :
    (int32 v).convert .uint32 = some (uint32 v.toUInt32) := by
  show some (uint32 ⟨BitVec.ofInt 32 v.toBitVec.toInt⟩) = _
  rw [BitVec.ofInt_toInt]
  rfl

@[simp] theorem convert_unsigned64 (v : Int64) :
    (int64 v).convert .uint64 = some (uint64 v.toUInt64) := by
  show some (uint64 ⟨BitVec.ofInt 64 v.toBitVec.toInt⟩) = _
  rw [BitVec.ofInt_toInt]
  rfl

@[simp] theorem convert_signed32 (v : UInt32) :
    (uint32 v).convert .int32 = some (int32 v.toInt32) := by
  have hbits : Int32.ofInt v.toNat = v.toInt32 := Int32.toBitVec_inj.mp (by simp)
  show some (int32 (Int32.ofInt v.toNat)) = _
  rw [hbits]

@[simp] theorem convert_signed64 (v : UInt64) :
    (uint64 v).convert .int64 = some (int64 v.toInt64) := by
  have hbits : Int64.ofInt v.toNat = v.toInt64 := Int64.toBitVec_inj.mp (by simp)
  show some (int64 (Int64.ofInt v.toNat)) = _
  rw [hbits]

@[simp] theorem convert_number (enumName : String) (v : Int32) :
    (enumeration enumName v).convert .int32 = some (int32 v) := by
  show some (int32 (Int32.ofInt v.toInt)) = _
  rw [Int32.ofInt_toInt]

@[simp] theorem convert_enumeration (enumName : String) (v : Int32) :
    (int32 v).convert (.enumeration enumName) = some (enumeration enumName v) := by
  show some (enumeration enumName (Int32.ofInt v.toInt)) = _
  rw [Int32.ofInt_toInt]

/-! ### Images -/

/-- The bytes of a value in a buffer. -/
def image : Value → List UInt8
  | int32 v => bytes 4 v.toUInt32.toNat
  | int64 v => bytes 8 v.toUInt64.toNat
  | uint32 v => bytes 4 v.toNat
  | uint64 v => bytes 8 v.toNat
  | float bits => bytes 4 bits.toNat
  | double bits => bytes 8 bits.toNat
  | bool v => [if v then 1 else 0]
  | enumeration _ v => bytes 4 v.toUInt32.toNat

/-- The value of a type that bytes stand for. -/
def ofImage (bs : List UInt8) : CType → Value
  | .int32 => int32 (UInt32.ofNat (value bs)).toInt32
  | .int64 => int64 (UInt64.ofNat (value bs)).toInt64
  | .uint32 => uint32 (UInt32.ofNat (value bs))
  | .uint64 => uint64 (UInt64.ofNat (value bs))
  | .float => float (UInt32.ofNat (value bs))
  | .double => double (UInt64.ofNat (value bs))
  | .bool => bool (bs ≠ [0])
  | .enumeration enumName => enumeration enumName (UInt32.ofNat (value bs)).toInt32

@[simp] theorem type_ofImage (bs : List UInt8) (type : CType) : (ofImage bs type).type = type := by
  cases type <;> rfl

private theorem ofNat_value32 (v : UInt32) : UInt32.ofNat (value (bytes 4 v.toNat)) = v := by
  rw [LittleEndian.value_bytes]
  have h : v.toNat % 256 ^ 4 = v.toNat := Nat.mod_eq_of_lt v.toNat_lt
  rw [h, UInt32.ofNat_toNat]

private theorem ofNat_value64 (v : UInt64) : UInt64.ofNat (value (bytes 8 v.toNat)) = v := by
  rw [LittleEndian.value_bytes]
  have h : v.toNat % 256 ^ 8 = v.toNat := Nat.mod_eq_of_lt v.toNat_lt
  rw [h, UInt64.ofNat_toNat]

/-- A value is read back from its bytes. -/
theorem ofImage_image (v : Value) : ofImage v.image v.type = v := by
  cases v with
  | int32 v | enumeration _ v =>
      simp only [image, type, ofImage]
      rw [ofNat_value32, Int32.toInt32_toUInt32]
  | int64 v =>
      simp only [image, type, ofImage]
      rw [ofNat_value64, Int64.toInt64_toUInt64]
  | uint32 v | float v =>
      simp only [image, type, ofImage]
      rw [ofNat_value32]
  | uint64 v | double v =>
      simp only [image, type, ofImage]
      rw [ofNat_value64]
  | bool v => cases v <;> rfl

end Value

/-! ### Runs -/

/-- The members of a structure and a buffer. -/
structure Memory where
  members : String → Value
  buffer : List UInt8

/-- Members of which one has another value. -/
def assign (members : String → Value) (name : String) (v : Value) (other : String) : Value :=
  if other = name then v else members other

namespace Word

/-- The type of what the helpers for a word put and get. -/
def type : Word → CType
  | u32 => .uint32
  | u64 => .uint64
  | f32 => .float
  | f64 => .double

/-- Puts a value of the word's type into a buffer. -/
def put (offset : Nat) (buf : List UInt8) : Word → Value → Option (List UInt8)
  | u32, .uint32 v => putU32 offset v buf
  | u64, .uint64 v => putU64 offset v buf
  | f32, .float bits => putU32 offset bits buf
  | f64, .double bits => putU64 offset bits buf
  | _, _ => none

/-- Gets a value of the word's type from a buffer. -/
def get (offset : Nat) (buf : List UInt8) : Word → Option Value
  | u32 => (getU32 offset buf).map .uint32
  | u64 => (getU64 offset buf).map .uint64
  | f32 => (getU32 offset buf).map .float
  | f64 => (getU64 offset buf).map .double

end Word

/-- The value of an expression. -/
def Expr.eval (memory : Memory) : Expr → Option Value
  | member name => some (memory.members name)
  | byte offset => (memory.buffer[offset]?).map fun b => .int32 (Int32.ofNat b.toNat)
  | get word offset => word.get offset memory.buffer
  | cast type e => (e.eval memory).bind (Value.convert type)
  | oneIf e => do
      let n ← (← e.eval memory).toInt?
      return .uint32 (if n ≠ 0 then 1 else 0)
  | nonzero e => do
      let n ← (← e.eval memory).toInt?
      return .int32 (if n ≠ 0 then 1 else 0)

/-- The memory after a statement. -/
def Stmt.run (memory : Memory) : Stmt → Option Memory
  | put word offset e => do
      let v ← (← e.eval memory).convert word.type
      let buf ← word.put offset memory.buffer v
      return { memory with buffer := buf }
  | setByte offset e => do
      let n ← (← e.eval memory).toInt?
      let buf ← setAt offset (UInt8.ofInt n) memory.buffer
      return { memory with buffer := buf }
  | setMember name e => do
      let v ← (← e.eval memory).convert (memory.members name).type
      return { memory with members := assign memory.members name v }

/-- The memory after statements, one after the other. -/
def runAll : List Stmt → Memory → Option Memory
  | [], memory => some memory
  | s :: stmts, memory => (s.run memory).bind (runAll stmts)

/-! ### What statements do -/

namespace Value

theorem type_of_convert {v w : Value} {type : CType} (h : v.convert type = some w) :
    w.type = type := by
  unfold convert at h
  by_cases htype : v.type = type
  · rw [if_pos htype] at h
    cases h
    exact htype
  · rw [if_neg htype] at h
    obtain ⟨n, -, hn⟩ := Option.bind_eq_some_iff.mp h
    cases type with
    | float | double => cases hn
    | _ =>
        cases hn
        rfl

end Value

namespace Word

/-- The number of bytes of a word. -/
def bytes : Word → Nat
  | u32 | f32 => 4
  | u64 | f64 => 8

/-- The bytes of a word's place are replaced by the image of what is put there. -/
theorem put_run (word : Word) {v : Value} (htype : v.type = word.type) (done : List UInt8)
    {old : List UInt8} (hold : old.length = word.bytes) (rest : List UInt8) :
    word.put done.length (done ++ old ++ rest) v = some (done ++ v.image ++ rest) := by
  cases word with
  | u32 | f32 =>
      cases v with
      | uint32 v | float v => first | exact putU32_run done hold rest v | cases htype
      | _ => cases htype
  | u64 | f64 =>
      cases v with
      | uint64 v | double v => first | exact putU64_run done hold rest v | cases htype
      | _ => cases htype

/-- What is got from the bytes of a word's place is the value they are the image of. -/
theorem get_run (word : Word) (done : List UInt8) {bs : List UInt8} (hbs : bs.length = word.bytes)
    (rest : List UInt8) :
    word.get done.length (done ++ bs ++ rest) = some (.ofImage bs word.type) := by
  cases word with
  | u32 | f32 =>
      unfold get
      rw [getU32_run done hbs rest]
      rfl
  | u64 | f64 =>
      unfold get
      rw [getU64_run done hbs rest]
      rfl

end Word

theorem Expr.eval_cast {memory : Memory} {e : Expr} {v w : Value} {type : CType}
    (heval : e.eval memory = some v) (hconvert : v.convert type = some w) :
    (cast type e).eval memory = some w := by
  rw [eval, heval, Option.bind_some, hconvert]

/-- Whether a byte is other than zero, as a number. -/
theorem Expr.eval_nonzero {members : String → Value} (done : List UInt8) (b : UInt8)
    (rest : List UInt8) :
    (nonzero (byte done.length)).eval ⟨members, done ++ b :: rest⟩
      = some (.int32 (if b = 0 then 0 else 1)) := by
  have hbyte : (done ++ b :: rest)[done.length]? = some b := by simp
  have hnumber : (Int32.ofNat b.toNat).toInt = b.toNat := by
    have hlt := b.toNat_lt
    exact Int32.toInt_ofNat_of_lt (by omega)
  have heval : (byte done.length).eval ⟨members, done ++ b :: rest⟩
      = some (.int32 (Int32.ofNat b.toNat)) := by
    rw [eval, hbyte, Option.map_some]
  rw [eval, heval]
  show some (Value.int32 (if (Int32.ofNat b.toNat).toInt ≠ 0 then 1 else 0)) = _
  rw [hnumber]
  by_cases hb : b = 0
  · subst hb
    rfl
  · have hne : (b.toNat : Int) ≠ 0 := by
      intro hzero
      exact hb (UInt8.toNat_inj.mp (Int.ofNat_inj.mp hzero))
    rw [if_pos hne, if_neg hb]

namespace Stmt

variable {members : String → Value} {e : Expr} {v w : Value}

theorem run_put (word : Word) (done : List UInt8) {old : List UInt8}
    (hold : old.length = word.bytes) (rest : List UInt8)
    (heval : e.eval ⟨members, done ++ old ++ rest⟩ = some v)
    (hconvert : v.convert word.type = some w) :
    (put word done.length e).run ⟨members, done ++ old ++ rest⟩
      = some ⟨members, done ++ w.image ++ rest⟩ := by
  have hput := word.put_run (Value.type_of_convert hconvert) done hold rest
  unfold run
  simp only [heval, hconvert, hput, Option.bind_eq_bind, Option.bind_some]
  rfl

theorem run_setByte (done : List UInt8) (old : UInt8) (rest : List UInt8) {n : Int}
    (heval : e.eval ⟨members, done ++ old :: rest⟩ = some v) (hint : v.toInt? = some n) :
    (setByte done.length e).run ⟨members, done ++ old :: rest⟩
      = some ⟨members, done ++ UInt8.ofInt n :: rest⟩ := by
  have hset := setAt_run done old (UInt8.ofInt n) rest
  unfold run
  simp only [heval, hint, hset, Option.bind_eq_bind, Option.bind_some]
  rfl

theorem run_setMember {memory : Memory} (name : String) (heval : e.eval memory = some v)
    (hconvert : v.convert (memory.members name).type = some w) :
    (setMember name e).run memory
      = some ⟨assign memory.members name w, memory.buffer⟩ := by
  unfold run
  simp only [heval, hconvert, Option.bind_eq_bind, Option.bind_some]
  rfl

end Stmt

/-! ### Macros -/

/-- The number that an unsigned literal stands for. -/
def unsigned? (literal : List Char) : Option Nat :=
  if literal.dropLast.all Char.isDigit ∧ literal.getLast? = some 'u' then
    some (Nat.ofDigitChars 10 literal.dropLast 0)
  else none

/-- The value that a line defines for a macro, if it defines it. -/
def macroOfLine? (name line : String) : Option Nat :=
  let start := ("#define " ++ name ++ " ").toList
  if start.isPrefixOf line.toList then unsigned? (line.toList.drop start.length) else none

/-- The value of a macro in lines, which is that of the first line that defines it. -/
def macroValue? (name : String) (lines : List String) : Option Nat :=
  lines.findSome? (macroOfLine? name)

theorem macroOfLine?_define (name : String) (n : Nat) :
    macroOfLine? name ("#define " ++ name ++ " " ++ toString n ++ "u") = some n := by
  have hline : ("#define " ++ name ++ " " ++ toString n ++ "u").toList
      = ("#define " ++ name ++ " ").toList ++ (Nat.toDigits 10 n ++ ['u']) := by
    rw [String.toList_append, String.toList_append, Nat.toString_eq_repr, Nat.toList_repr,
      List.append_assoc]
    rfl
  have hdigits : (Nat.toDigits 10 n).all Char.isDigit = true := by
    rw [List.all_eq_true]
    intro c hc
    exact Nat.isDigit_of_mem_toDigits (by decide) (by decide) hc
  unfold macroOfLine?
  rw [hline, if_pos (List.isPrefixOf_iff_prefix.mpr (List.prefix_append _ _)),
    List.drop_left]
  unfold unsigned?
  rw [List.dropLast_concat, if_pos ⟨hdigits, by simp⟩, Nat.ofDigitChars_ten_toDigits]

theorem macroOfLine?_other {name line : String} (h : line.toList.head? ≠ some '#') :
    macroOfLine? name line = none := by
  unfold macroOfLine?
  rw [if_neg]
  intro hprefix
  obtain ⟨rest, hrest⟩ := List.isPrefixOf_iff_prefix.mp hprefix
  apply h
  rw [← hrest, String.toList_append, String.toList_append]
  rfl

/-! ### Calls -/

/-- What a call returns and leaves behind. -/
structure Outcome where
  returned : Int
  memory : Memory

/-- A call of a function with the whole buffer, where `header` are the lines that define the
macro for the size. -/
def Routine.call (header : List String) (routine : Routine) (memory : Memory) :
    Option Outcome := do
  let size ← macroValue? (sizeMacro routine.message) header
  if memory.buffer.length < size then
    return ⟨-1, memory⟩
  else
    let after ← runAll routine.body memory
    return ⟨(Int32.ofNat size).toInt, after⟩

namespace Routine

variable {header : List String} {routine : Routine} {memory : Memory} {size : Nat}

/-- A buffer that is too short is left alone, and so is the structure. -/
theorem call_short (hvalue : macroValue? (sizeMacro routine.message) header = some size)
    (hshort : memory.buffer.length < size) : routine.call header memory = some ⟨-1, memory⟩ := by
  unfold call
  rw [hvalue, Option.bind_eq_bind, Option.bind_some, if_pos hshort]
  rfl

/-- In a buffer that is long enough the body runs, and the size is returned. -/
theorem call_run (hvalue : macroValue? (sizeMacro routine.message) header = some size)
    (hlong : size ≤ memory.buffer.length) (hsize : size < 2 ^ 31) {after : Memory}
    (hrun : runAll routine.body memory = some after) :
    routine.call header memory = some ⟨size, after⟩ := by
  have hint : (Int32.ofNat size).toInt = size := Int32.toInt_ofNat_of_lt hsize
  unfold call
  rw [hvalue, Option.bind_eq_bind, Option.bind_some, if_neg (Nat.not_lt.mpr hlong), hrun]
  show some (Outcome.mk (Int32.ofNat size).toInt after) = _
  rw [hint]

end Routine

end DeviceGen.C
