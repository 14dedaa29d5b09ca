/-
Keys, and fields that nobody declared.

A field begins with a key: its number and the way its bytes are delimited.  That is
enough to step over a field of unknown meaning.  Groups nest, so stepping over one
spends a level of the nesting budget for itself and for every group inside it.
-/
import DeviceGen.Wire.Varint

namespace DeviceGen.Wire

/-- A field's number and how its bytes are delimited. -/
structure Key where
  number : Nat
  wireType : WireType
  deriving DecidableEq, Repr

namespace Key

/-- The number above the three bits of the wire type. -/
def write (key : Key) : List UInt8 := Varint.write (8 * key.number + key.wireType.code)

/-- The key that the integer `n` stands for; it has 32 bits. -/
def ofNat (n : Nat) : Except Cause Key :=
  if 0x100000000 ≤ n then .error (.invalidKey n)
  else
    match WireType.ofCode? (n % 8) with
    | none => .error (.unknownWireType (n % 8))
    | some wireType => if n / 8 = 0 then .error .zeroNumber else .ok ⟨n / 8, wireType⟩

/-- Reads a key. -/
def read : Reader Key := do
  match ofNat (← Varint.read) with
  | .ok key => return key
  | .error cause => Reader.fail cause

/-- A number from 1 to 2²⁹ - 1 comes back from its key. -/
theorem ofNat_write (key : Key) (h₀ : 0 < key.number) (h₁ : key.number < 0x20000000) :
    ofNat (8 * key.number + key.wireType.code) = .ok key := by
  have hcode := key.wireType.code_lt
  have hmod : (8 * key.number + key.wireType.code) % 8 = key.wireType.code := by omega
  have hdiv : (8 * key.number + key.wireType.code) / 8 = key.number := by omega
  rw [ofNat, if_neg (by omega), hmod, hdiv, WireType.ofCode?_code]
  simp only [if_neg (Nat.pos_iff_ne_zero.mp h₀)]

end Key

/-- Steps over the rest of a field whose key was just read, with `budget` levels of
nesting left. -/
def skip : (budget : Nat) → Key → Reader Unit
  | 0, _ => Reader.fail .tooDeep
  | budget + 1, key =>
    match key.wireType with
    | .varint => discard Varint.read
    | .fixed32 => discard (Reader.take 4)
    | .fixed64 => discard (Reader.take 8)
    | .delimited => do discard (Reader.take (← Varint.read))
    | .groupStart => discard <| Reader.collect do
        let inner ← Key.read
        if inner.wireType ≠ .groupEnd then
          skip budget inner
          return some ()
        else if inner.number = key.number then return none
        else Reader.fail .strayGroupEnd
    | .groupEnd => Reader.fail .strayGroupEnd

end DeviceGen.Wire
