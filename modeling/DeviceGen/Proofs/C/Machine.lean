/-
Code as it is run.

A function that was read runs on its arguments and on the memory behind them.  Its expressions
have values of the types of members, and besides them numbers of bytes and pointers, which lead to
the structure, to a place of the buffer or to a variable.  An enumeration is an `int`, and so is a
byte.  Operators are defined where their operands have the types that generated code gives them;
there is no result where C has none, and none where this little of C does not reach.

Which macros are defined and what other functions do is not in the function, so it is given.  The
functions of a text call each other; none calls itself, so calls are no deeper than there are
functions.
-/
import DeviceGen.Proofs.C.Code

namespace DeviceGen.C

/-! ### Types and values -/

/-- Names of types that are not those of enumerations, with the types of values. -/
def ownTypes : List (String × Option CType) := [
  ("int", some .int32), ("int32_t", some .int32), ("int64_t", some .int64),
  ("uint32_t", some .uint32), ("uint64_t", some .uint64), ("float", some .float),
  ("double", some .double), ("bool", some .bool),
  ("uint8_t", none), ("size_t", none), ("void", none)]

/-- The type of the values of a type that has a name. -/
def CType.named? (name : String) : Option CType := (ownTypes.lookup name).getD (some .int32)

/-- The number of bytes of the values of a type. -/
def CType.size : CType → Nat
  | int32 | uint32 | float | enumeration _ => 4
  | int64 | uint64 | double => 8
  | bool => 1

namespace Value

/-- A value in an expression. -/
def promoted : Value → Value
  | enumeration _ v => int32 v
  | v => v

/-- Whether a value counts as true. -/
def isTrue? (v : Value) : Option Bool := v.toInt?.map fun n => n ≠ 0

end Value

/-- A byte in an expression. -/
def byteValue (b : UInt8) : Value := .int32 (Int32.ofNat b.toNat)

/-- The value of a number in code. -/
def literal? (n : Nat) (unsigned : Bool) : Option Value :=
  if unsigned then if n < 2 ^ 32 then some (.uint32 (UInt32.ofNat n)) else none
  else if n < 2 ^ 31 then some (.int32 (Int32.ofNat n)) else none

theorem literal?_signed {n : Nat} (h : n < 2 ^ 31) :
    literal? n false = some (.int32 (Int32.ofNat n)) := by
  unfold literal?
  rw [if_neg (by decide), if_pos h]

theorem literal?_unsigned {n : Nat} (h : n < 2 ^ 32) :
    literal? n true = some (.uint32 (UInt32.ofNat n)) := by
  unfold literal?
  rw [if_pos rfl, if_pos h]

theorem ofInt_toNat (b : UInt8) : UInt8.ofInt b.toNat = b := by
  have hlt := b.toNat_lt
  apply UInt8.toNat_inj.mp
  simp only [UInt8.ofInt, UInt8.toNat_ofNat']
  omega

theorem toInt?_byteValue (b : UInt8) : (byteValue b).toInt? = some (b.toNat : Int) := by
  have hlt := b.toNat_lt
  exact congrArg some (Int32.toInt_ofNat_of_lt (by omega))

namespace Value

/-! Wide numbers lose their high bits, and narrow ones get zeros. -/

theorem convert_byteValue (b : UInt8) :
    (byteValue b).convert .uint32 = some (uint32 b.toUInt32) := by
  have hlt := b.toNat_lt
  show some (uint32 ⟨BitVec.ofInt 32 (Int32.ofNat b.toNat).toInt⟩) = _
  rw [Int32.toInt_ofNat_of_lt (by omega), BitVec.ofInt_natCast]
  refine congrArg (some ∘ uint32) (UInt32.toNat_inj.mp ?_)
  exact (Nat.mod_eq_of_lt (by omega)).trans b.toNat_toUInt32.symm

theorem convert_narrow (v : UInt64) :
    (uint64 v).convert .uint32 = some (uint32 v.toUInt32) := by
  show some (uint32 ⟨BitVec.ofInt 32 v.toNat⟩) = _
  rw [BitVec.ofInt_natCast]
  rfl

theorem convert_wide (v : UInt32) : (uint32 v).convert .uint64 = some (uint64 v.toUInt64) := by
  have hlt := v.toNat_lt
  show some (uint64 ⟨BitVec.ofInt 64 v.toNat⟩) = _
  rw [BitVec.ofInt_natCast]
  refine congrArg (some ∘ uint64) (UInt64.toNat_inj.mp ?_)
  exact (Nat.mod_eq_of_lt (by omega)).trans v.toNat_toUInt64.symm

end Value

/-! ### Data -/

/-- What expressions give and locals hold. -/
inductive Datum where
  | value (v : Value)
  /-- A number of bytes. -/
  | size (n : Nat)
  /-- Where the structure is. -/
  | object
  /-- Where a byte of the buffer is. -/
  | place (offset : Nat)
  /-- Where a variable is. -/
  | reference (name : String)
  deriving DecidableEq

namespace Datum

def value? : Datum → Option Value
  | value v => some v
  | _ => none

def place? : Datum → Option Nat
  | place offset => some offset
  | _ => none

/-- A datum as one of the type with a name. -/
def convert (type : String) : Datum → Option Datum
  | value v =>
    match CType.named? type with
    | some t => (v.convert t).map value
    | none =>
      if type = "uint8_t" then v.toInt?.map fun n => value (byteValue (UInt8.ofInt n)) else none
  | size n => if type = "size_t" then some (size n) else none
  | _ => none

end Datum

/-- What an operator gives. -/
def Operator.apply : Operator → Datum → Datum → Option Datum
  | or, .value (.uint32 a), .value (.uint32 b) => some (.value (.uint32 (a ||| b)))
  | or, .value (.uint64 a), .value (.uint64 b) => some (.value (.uint64 (a ||| b)))
  | unequal, .value (.int32 a), .value (.uint32 b) =>
    some (.value (.int32 (if a.toUInt32 ≠ b then 1 else 0)))
  | less, .size n, .value (.uint32 m) => some (.value (.int32 (if n < m.toNat then 1 else 0)))
  | shiftLeft, .value (.uint32 a), .value (.int32 n) =>
    if n.toUInt32 < 32 then some (.value (.uint32 (a <<< n.toUInt32))) else none
  | shiftLeft, .value (.uint64 a), .value (.int32 n) =>
    if n.toUInt32 < 64 then some (.value (.uint64 (a <<< n.toUInt32.toUInt64))) else none
  | shiftRight, .value (.uint32 a), .value (.int32 n) =>
    if n.toUInt32 < 32 then some (.value (.uint32 (a >>> n.toUInt32))) else none
  | shiftRight, .value (.uint64 a), .value (.int32 n) =>
    if n.toUInt32 < 64 then some (.value (.uint64 (a >>> n.toUInt32.toUInt64))) else none
  | add, .place offset, .value (.int32 n) =>
    if 0 ≤ n then some (.place (offset + n.toInt.toNat)) else none
  | _, _, _ => none

theorem Datum.convert_value {v w : Value} {type : String} {t : CType}
    (ht : CType.named? type = some t) (h : v.convert t = some w) :
    (value v).convert type = some (value w) := by
  simp [convert, ht, h]

/-- The low byte of a number. -/
theorem Datum.convert_lowByte (v : UInt32) :
    (value (.uint32 v)).convert "uint8_t" = some (value (byteValue v.toUInt8)) := by
  have hlow : UInt8.ofInt v.toNat = v.toUInt8 := by
    apply UInt8.toNat_inj.mp
    simp only [UInt8.ofInt, UInt8.toNat_ofNat', UInt32.toNat_toUInt8]
    omega
  show some (value (byteValue (UInt8.ofInt v.toNat))) = _
  rw [hlow]

/-- A place behind another one. -/
theorem Operator.apply_add (offset : Nat) {i : Nat} (h : i < 2 ^ 31) :
    add.apply (.place offset) (.value (.int32 (Int32.ofNat i))) = some (.place (offset + i)) := by
  have hint : (Int32.ofNat i).toInt = i := Int32.toInt_ofNat_of_lt h
  have hpos : 0 ≤ Int32.ofNat i := by
    rw [Int32.le_iff_toInt_le, hint]
    exact Int.natCast_nonneg i
  show (if 0 ≤ Int32.ofNat i then some (Datum.place (offset + (Int32.ofNat i).toInt.toNat))
    else none) = _
  rw [if_pos hpos, hint, Int.toNat_natCast]

section Shifts

variable {n : Nat}

private theorem ofNat_lt (h : n < 32) : (Int32.ofNat n).toUInt32 < 32 := by
  show UInt32.ofNat n < 32
  rw [UInt32.lt_iff_toNat_lt, UInt32.toNat_ofNat']
  show n % 2 ^ 32 < 32
  omega

theorem Operator.apply_shiftLeft (v : UInt32) (h : n < 32) :
    shiftLeft.apply (.value (.uint32 v)) (.value (.int32 (Int32.ofNat n)))
      = some (.value (.uint32 (v <<< UInt32.ofNat n))) :=
  if_pos (ofNat_lt h)

theorem Operator.apply_shiftRight (v : UInt32) (h : n < 32) :
    shiftRight.apply (.value (.uint32 v)) (.value (.int32 (Int32.ofNat n)))
      = some (.value (.uint32 (v >>> UInt32.ofNat n))) :=
  if_pos (ofNat_lt h)

end Shifts

/-! ### Expressions -/

/-- A variable has a value, or it has only been declared. -/
inductive Variable where
  | holds (d : Datum)
  | blank (type : CType)

namespace Variable

def datum? : Variable → Option Datum
  | holds d => some d
  | blank _ => none

def type? : Variable → Option CType
  | holds d => d.value?.map Value.type
  | blank type => some type

end Variable

/-- Locals by their names, those last that were declared first. -/
abbrev Locals := List (String × Variable)

/-- What a function does with its arguments and the memory; it may have a result. -/
abbrev Effect := List Datum → Memory → Option (Option Datum × Memory)

/-- What stands outside of a function: the macros that are defined, and what functions do. -/
structure Linkage where
  defined : String → Option Nat
  call : String → Effect

/-- What an expression gives, and the memory after it. -/
def Phrase.eval (linkage : Linkage) (locals : Locals) :
    Phrase → Memory → Option (Datum × Memory)
  | number n unsigned, memory => do
    return (.value (← literal? n unsigned), memory)
  | name x, memory =>
    match locals.lookup x with
    | some v => do
      return (← v.datum?, memory)
    | none => do
      let n ← linkage.defined x
      return (.value (← literal? n true), memory)
  | member e field, memory => do
    let (.object, memory) ← e.eval linkage locals memory | none
    return (.value (memory.members field).promoted, memory)
  | item array index, memory => do
    let (d, memory) ← array.eval linkage locals memory
    let (i, memory) ← index.eval linkage locals memory
    let offset ← (← Operator.add.apply d i).place?
    let b ← memory.buffer[offset]?
    return (.value (byteValue b), memory)
  | call function e, memory => do
    let (d, memory) ← e.eval linkage locals memory
    let (result, memory) ← linkage.call function [d] memory
    return (← result, memory)
  | address (item array index), memory => do
    let (d, memory) ← array.eval linkage locals memory
    let (i, memory) ← index.eval linkage locals memory
    return (← Operator.add.apply d i, memory)
  | address (name x), memory => (locals.lookup x).map fun _ => (.reference x, memory)
  | address _, _ => none
  | negate e, memory => do
    let (d, memory) ← e.eval linkage locals memory
    let .value (.int32 v) := d | none
    if v = Int32.minValue then none else return (.value (.int32 (-v)), memory)
  | cast type e, memory => do
    let (d, memory) ← e.eval linkage locals memory
    return (← d.convert type, memory)
  | sizeOf x, memory => do
    let type ← (locals.lookup x).bind Variable.type?
    return (.size type.size, memory)
  | binary operator a b, memory => do
    let (d, memory) ← a.eval linkage locals memory
    let (d', memory) ← b.eval linkage locals memory
    return (← operator.apply d d', memory)
  | conditional condition a b, memory => do
    let (d, memory) ← condition.eval linkage locals memory
    let v ← d.value?
    if ← v.isTrue? then a.eval linkage locals memory else b.eval linkage locals memory

/-- What expressions give, one after the other. -/
def evalAll (linkage : Linkage) (locals : Locals) :
    List Phrase → Memory → Option (List Datum × Memory)
  | [], memory => some ([], memory)
  | e :: es, memory => do
    let (d, memory) ← e.eval linkage locals memory
    let (ds, memory) ← evalAll linkage locals es memory
    return (d :: ds, memory)

/-! What an expression gives is found from what its parts give.  None that is generated changes the
memory. -/

section Expressions

variable {linkage : Linkage} {locals : Locals} {memory : Memory} {d d' d'' : Datum}
  {e a b : Phrase}

/-- An expression gives a datum, and leaves the memory as it is. -/
def Phrase.Gives (linkage : Linkage) (locals : Locals) (memory : Memory) (e : Phrase)
    (d : Datum) : Prop :=
  e.eval linkage locals memory = some (d, memory)

namespace Phrase.Gives

attribute [local simp] eval

theorem number {n : Nat} {unsigned : Bool} {v : Value} (h : literal? n unsigned = some v) :
    (Phrase.number n unsigned).Gives linkage locals memory (.value v) := by
  simp [Gives, h]

theorem name {x : String} (h : locals.lookup x = some (.holds d)) :
    (Phrase.name x).Gives linkage locals memory d := by
  simp [Gives, h, Variable.datum?]

theorem defined {x : String} {n : Nat} {v : Value} (hname : locals.lookup x = none)
    (hdefined : linkage.defined x = some n) (hn : literal? n true = some v) :
    (Phrase.name x).Gives linkage locals memory (.value v) := by
  simp [Gives, hname, hdefined, hn]

theorem member (h : e.Gives linkage locals memory .object) (field : String) :
    (Phrase.member e field).Gives linkage locals memory
      (.value (memory.members field).promoted) := by
  unfold Gives at *
  simp [h]

theorem address (ha : a.Gives linkage locals memory d)
    (hb : b.Gives linkage locals memory d') (hplace : Operator.add.apply d d' = some d'') :
    (Phrase.address (.item a b)).Gives linkage locals memory d'' := by
  unfold Gives at *
  simp [ha, hb, hplace]

theorem item {offset : Nat} {c : UInt8} (ha : a.Gives linkage locals memory d)
    (hb : b.Gives linkage locals memory d')
    (hplace : Operator.add.apply d d' = some (.place offset))
    (hbyte : memory.buffer[offset]? = some c) :
    (Phrase.item a b).Gives linkage locals memory (.value (byteValue c)) := by
  unfold Gives at *
  simp [ha, hb, hplace, Datum.place?, hbyte]

/-- A place behind the one that a variable points to. -/
theorem placeAt {x : String} {offset i : Nat} (hx : locals.lookup x = some (.holds (.place offset)))
    (hi : i < 2 ^ 31) :
    (Phrase.address (.item (.name x) (.number i false))).Gives linkage locals memory
      (.place (offset + i)) :=
  address (name hx) (number (literal?_signed hi)) (Operator.apply_add offset hi)

/-- The byte at a place behind the one that a variable points to. -/
theorem byteAt {x : String} {offset i : Nat} {c : UInt8}
    (hx : locals.lookup x = some (.holds (.place offset))) (hi : i < 2 ^ 31)
    (hbyte : memory.buffer[offset + i]? = some c) :
    (Phrase.item (.name x) (.number i false)).Gives linkage locals memory
      (.value (byteValue c)) :=
  item (name hx) (number (literal?_signed hi)) (Operator.apply_add offset hi) hbyte

theorem reference {x : String} {w : Variable} (h : locals.lookup x = some w) :
    (Phrase.address (.name x)).Gives linkage locals memory (.reference x) := by
  simp [Gives, h]

theorem sizeOf {x : String} {w : Variable} {type : CType} (h : locals.lookup x = some w)
    (htype : w.type? = some type) :
    (Phrase.sizeOf x).Gives linkage locals memory (.size type.size) := by
  simp [Gives, h, htype]

theorem call {function : String} (h : e.Gives linkage locals memory d)
    (hcall : linkage.call function [d] memory = some (some d', memory)) :
    (Phrase.call function e).Gives linkage locals memory d' := by
  unfold Gives at *
  simp [h, hcall]

theorem negate {n : Int32} (h : e.Gives linkage locals memory (.value (.int32 n)))
    (hn : n ≠ Int32.minValue) :
    (Phrase.negate e).Gives linkage locals memory (.value (.int32 (-n))) := by
  unfold Gives at *
  simp [h, hn]

theorem cast {type : String} (h : e.Gives linkage locals memory d)
    (hd : d.convert type = some d') : (Phrase.cast type e).Gives linkage locals memory d' := by
  unfold Gives at *
  simp [h, hd]

theorem binary {operator : Operator} (ha : a.Gives linkage locals memory d)
    (hb : b.Gives linkage locals memory d') (happly : operator.apply d d' = some d'') :
    (Phrase.binary operator a b).Gives linkage locals memory d'' := by
  unfold Gives at *
  simp [ha, hb, happly]

theorem conditional {c : Phrase} {v : Value} {isTrue : Bool}
    (hc : c.Gives linkage locals memory (.value v)) (htrue : v.isTrue? = some isTrue)
    (h : (if isTrue then a else b).Gives linkage locals memory d) :
    (Phrase.conditional c a b).Gives linkage locals memory d := by
  unfold Gives at *
  cases isTrue with
  | false => simpa [hc, Datum.value?, htrue] using h
  | true => simpa [hc, Datum.value?, htrue] using h

end Phrase.Gives

theorem evalAll_nil : evalAll linkage locals [] memory = some ([], memory) := rfl

theorem evalAll_cons {es : List Phrase} {ds : List Datum} (h : e.Gives linkage locals memory d)
    (hs : evalAll linkage locals es memory = some (ds, memory)) :
    evalAll linkage locals (e :: es) memory = some (d :: ds, memory) := by
  unfold Phrase.Gives at h
  simp [evalAll, h, hs]

end Expressions

/-! ### Statements -/

/-- How a statement ends. -/
inductive Ending where
  | goesOn (locals : Locals) (memory : Memory)
  | returns (d : Datum) (memory : Memory)

/-- Copies the bytes of a variable to another one, which then has what they stand for. -/
def copy (locals : Locals) : List Datum → Option Locals
  | [.reference target, .reference source, .size n] => do
    let type ← (locals.lookup target).bind Variable.type?
    let v ← ((locals.lookup source).bind Variable.datum?).bind Datum.value?
    if type.size = n ∧ v.image.length = n then
      return (target, .holds (.value (.ofImage v.image type))) :: locals
    else none
  | _ => none

theorem Value.length_image (v : Value) : v.image.length = v.type.size := by
  cases v with
  | bool v => rfl
  | _ => exact LittleEndian.length_bytes _ _

/-- What has the same bytes is copied from one variable to another. -/
theorem copy_run {locals : Locals} {target source : String} {x : Variable} {v w : Value}
    (hto : locals.lookup target = some x) (htype : x.type? = some w.type)
    (hsource : locals.lookup source = some (.holds (.value v))) (himage : v.image = w.image) :
    copy locals [.reference target, .reference source, .size w.type.size]
      = some ((target, .holds (.value w)) :: locals) := by
  have hlength : v.image.length = w.type.size := by rw [himage, w.length_image]
  have hvalue : Value.ofImage v.image w.type = w := by rw [himage, Value.ofImage_image]
  simp [copy, hto, htype, hsource, Variable.datum?, Datum.value?, hlength, hvalue]

/-- How a statement ends that runs on locals and a memory. -/
def Command.run (linkage : Linkage) (locals : Locals) (memory : Memory) :
    Command → Option Ending
  | declare type x none => do
    let type ← CType.named? type
    return .goesOn ((x, .blank type) :: locals) memory
  | declare type x (some e) => do
    let (d, memory) ← e.eval linkage locals memory
    let d ← d.convert type
    return .goesOn ((x, .holds d) :: locals) memory
  | assign (.item array index) e => do
    let (d, memory) ← e.eval linkage locals memory
    let (p, memory) ← (Phrase.address (.item array index)).eval linkage locals memory
    let n ← (← d.value?).toInt?
    let buffer ← setAt (← p.place?) (UInt8.ofInt n) memory.buffer
    return .goesOn locals { memory with buffer := buffer }
  | assign (.member object field) e => do
    let (d, memory) ← e.eval linkage locals memory
    let (.object, memory) ← object.eval linkage locals memory | none
    let v ← (← d.value?).convert (memory.members field).type
    return .goesOn locals { memory with members := C.assign memory.members field v }
  | assign _ _ => none
  | call function arguments => do
    let (ds, memory) ← evalAll linkage locals arguments memory
    if function = "memcpy" then return .goesOn (← copy locals ds) memory
    else
      let (_, memory) ← linkage.call function ds memory
      return .goesOn locals memory
  | give e => do
    let (d, memory) ← e.eval linkage locals memory
    return .returns d memory
  | giveIf condition e => do
    let (c, memory) ← condition.eval linkage locals memory
    if ← (← c.value?).isTrue? then
      let (d, memory) ← e.eval linkage locals memory
      return .returns d memory
    else return .goesOn locals memory

/-- How statements end, one after the other. -/
def Command.runAll (linkage : Linkage) : List Command → Locals → Memory → Option Ending
  | [], locals, memory => some (.goesOn locals memory)
  | c :: cs, locals, memory => do
    match ← c.run linkage locals memory with
    | .goesOn locals memory => runAll linkage cs locals memory
    | .returns d memory => return .returns d memory

section Statements

variable {linkage : Linkage} {locals : Locals} {memory : Memory} {d d' : Datum}
  {e : Phrase} {v : Value}

namespace Command

attribute [local simp] run

theorem run_blank {type x : String} {t : CType} (h : CType.named? type = some t) :
    (declare type x none).run linkage locals memory
      = some (.goesOn ((x, .blank t) :: locals) memory) := by
  simp [h]

theorem run_declare {type x : String} (he : e.Gives linkage locals memory d)
    (hd : d.convert type = some d') :
    (declare type x (some e)).run linkage locals memory
      = some (.goesOn ((x, .holds d') :: locals) memory) := by
  unfold Phrase.Gives at he
  simp [he, hd]

theorem run_item {a i : Phrase} {offset : Nat} {n : Int} {buffer : List UInt8}
    (hplace : (Phrase.address (.item a i)).Gives linkage locals memory (.place offset))
    (he : e.Gives linkage locals memory (.value v)) (hn : v.toInt? = some n)
    (hset : setAt offset (UInt8.ofInt n) memory.buffer = some buffer) :
    (assign (.item a i) e).run linkage locals memory
      = some (.goesOn locals ⟨memory.members, buffer⟩) := by
  unfold Phrase.Gives at hplace he
  simp [hplace, he, Datum.value?, Datum.place?, hn, hset]

theorem run_member {object : Phrase} {field : String} {w : Value}
    (hobject : object.Gives linkage locals memory .object)
    (he : e.Gives linkage locals memory (.value v))
    (hw : v.convert (memory.members field).type = some w) :
    (assign (.member object field) e).run linkage locals memory
      = some (.goesOn locals ⟨C.assign memory.members field w, memory.buffer⟩) := by
  unfold Phrase.Gives at hobject he
  simp [hobject, he, Datum.value?, hw]

theorem run_copy {arguments : List Phrase} {ds : List Datum} {copied : Locals}
    (harguments : evalAll linkage locals arguments memory = some (ds, memory))
    (hcopy : copy locals ds = some copied) :
    (call "memcpy" arguments).run linkage locals memory = some (.goesOn copied memory) := by
  simp [harguments, hcopy]

theorem run_call {function : String} {arguments : List Phrase} {ds : List Datum}
    {result : Option Datum} {after : Memory} (hname : function ≠ "memcpy")
    (harguments : evalAll linkage locals arguments memory = some (ds, memory))
    (hcall : linkage.call function ds memory = some (result, after)) :
    (call function arguments).run linkage locals memory
      = some (.goesOn locals after) := by
  simp [harguments, hname, hcall]

theorem run_give (h : e.Gives linkage locals memory d) :
    (give e).run linkage locals memory = some (.returns d memory) := by
  unfold Phrase.Gives at h
  simp [h]

theorem run_giveIf_false {c : Phrase} (hc : c.Gives linkage locals memory (.value v))
    (htrue : v.isTrue? = some false) :
    (giveIf c e).run linkage locals memory = some (.goesOn locals memory) := by
  unfold Phrase.Gives at hc
  simp [hc, Datum.value?, htrue]

theorem run_giveIf_true {c : Phrase} (hc : c.Gives linkage locals memory (.value v))
    (htrue : v.isTrue? = some true) (he : e.Gives linkage locals memory d) :
    (giveIf c e).run linkage locals memory = some (.returns d memory) := by
  unfold Phrase.Gives at hc he
  simp [hc, Datum.value?, htrue, he]

theorem runAll_cons {c : Command} {cs : List Command} {after : Locals} {memory' : Memory}
    {ending : Ending} (h : c.run linkage locals memory = some (.goesOn after memory'))
    (hs : runAll linkage cs after memory' = some ending) :
    runAll linkage (c :: cs) locals memory = some ending := by
  rw [runAll, h]
  exact hs

theorem runAll_return {c : Command} {memory' : Memory}
    (h : c.run linkage locals memory = some (.returns d memory')) (cs : List Command) :
    runAll linkage (c :: cs) locals memory = some (.returns d memory') := by
  rw [runAll, h]
  rfl

end Command

end Statements

/-! ### Functions -/

/-- An argument as a parameter takes it. -/
def Parameter.take (parameter : Parameter) (d : Datum) : Option (String × Variable) :=
  if parameter.isPointer then
    match d with
    | .object | .place _ => some (parameter.name, .holds d)
    | _ => none
  else (d.convert parameter.type).map fun d => (parameter.name, .holds d)

/-- Arguments as parameters take them, which are as many. -/
def takeAll : List Parameter → List Datum → Option Locals
  | [], [] => some []
  | p :: ps, d :: ds => do
    return (← p.take d) :: (← takeAll ps ds)
  | _, _ => none

/-- What a function gives, and the memory after it. -/
def Function.call (linkage : Linkage) (function : Function) (arguments : List Datum)
    (memory : Memory) : Option (Option Datum × Memory) := do
  let locals ← takeAll function.parameters arguments
  match ← Command.runAll linkage function.body locals memory with
  | .goesOn _ memory => if function.result = "void" then return (none, memory) else none
  | .returns d memory => return (some (← d.convert function.result), memory)

section Functions

variable {linkage : Linkage} {function : Function} {arguments : List Datum} {locals : Locals}
  {memory after : Memory}

theorem Function.call_goesOn {left : Locals}
    (harguments : takeAll function.parameters arguments = some locals)
    (hbody : Command.runAll linkage function.body locals memory = some (.goesOn left after))
    (hresult : function.result = "void") :
    function.call linkage arguments memory = some (none, after) := by
  simp [call, harguments, hbody, hresult]

theorem Function.call_returns {d d' : Datum}
    (harguments : takeAll function.parameters arguments = some locals)
    (hbody : Command.runAll linkage function.body locals memory = some (.returns d after))
    (hd : d.convert function.result = some d') :
    function.call linkage arguments memory = some (some d', after) := by
  simp [call, harguments, hbody, hd]

end Functions

/-- What a function of a text gives, if calls are not deeper than that. -/
def callWithin (defined : String → Option Nat) (functions : List Function) :
    Nat → String → List Datum → Memory → Option (Option Datum × Memory)
  | 0, _, _, _ => none
  | depth + 1, name, arguments, memory => do
    let function ← functions.find? (·.name = name)
    function.call ⟨defined, callWithin defined functions depth⟩ arguments memory

theorem callWithin_succ {defined : String → Option Nat} {functions : List Function} {name : String}
    {function : Function} (h : functions.find? (·.name = name) = some function) (depth : Nat) :
    callWithin defined functions (depth + 1) name
      = function.call ⟨defined, callWithin defined functions depth⟩ := by
  funext arguments memory
  rw [callWithin, h]
  rfl

/-! ### Words -/

theorem Word.type_of_get {word : Word} {offset : Nat} {buf : List UInt8} {v : Value}
    (h : word.get offset buf = some v) : v.type = word.type := by
  cases word <;>
    · obtain ⟨n, -, rfl⟩ := Option.map_eq_some_iff.mp h
      rfl

/-- A function puts what becomes a word into the buffer. -/
structure Puts (call : Effect) (word : Word) : Prop where
  run : ∀ {offset : Nat} {v w : Value} {memory : Memory} {buffer : List UInt8},
    v.convert word.type = some w → word.put offset memory.buffer w = some buffer →
      call [.place offset, .value v] memory = some (none, ⟨memory.members, buffer⟩)

/-- A function gets a word from the buffer. -/
structure Gets (call : Effect) (word : Word) : Prop where
  run : ∀ {offset : Nat} {v : Value} {memory : Memory}, word.get offset memory.buffer = some v →
    call [.place offset] memory = some (some (.value v), memory)

/-- Every word can be put and got. -/
structure Linkage.Helps (linkage : Linkage) : Prop where
  puts : ∀ word : Word, Puts (linkage.call ("put_" ++ word.text)) word
  gets : ∀ word : Word, Gets (linkage.call ("get_" ++ word.text)) word

/-! ### Texts -/

/-- A call of a function of a text with the structure and the whole buffer, where `header` are the
lines that define macros. -/
def callByText (header : List String) (text name : String) (memory : Memory) :
    Option Outcome := do
  let functions ← functions? text
  let arguments := [.object, .place 0, .size memory.buffer.length]
  let (result, memory) ←
    callWithin (macroValue? · header) functions functions.length name arguments memory
  let .value (.int32 v) ← result | none
  return ⟨v.toInt, memory⟩

end DeviceGen.C
