/-
Bytes that are still to be read.

The number of unread bytes is kept beside them: lengths announced in the bytes are
compared with it again and again, and counting a list each time would make reading
quadratic.  The field `size_eq` says that the count is right, so an input is
determined by its bytes.

A reader either fails or returns what it read together with the unread rest.
-/
import DeviceGen.Wire.Failure

namespace DeviceGen.Wire

/-- Unread bytes and their number. -/
structure Input where
  bytes : List UInt8
  size : Nat
  size_eq : size = bytes.length

namespace Input

/-- All of `bytes`, unread. -/
def ofBytes (bytes : List UInt8) : Input := ⟨bytes, bytes.length, rfl⟩

/-- Inputs with the same bytes are equal. -/
theorem ext {i j : Input} (h : i.bytes = j.bytes) : i = j := by
  obtain ⟨b, n, hn⟩ := i
  obtain ⟨c, m, hm⟩ := j
  cases h
  cases hn
  cases hm
  rfl

/-- The first unread byte and the rest. -/
def next? : Input → Option (UInt8 × Input)
  | ⟨[], _, _⟩ => none
  | ⟨b :: bs, n, h⟩ => some (b, ⟨bs, n - 1, by simp [h]⟩)

/-- The first `n` unread bytes and the rest, if there are as many. -/
def take? (n : Nat) (i : Input) : Option (List UInt8 × Input) :=
  if n ≤ i.size then
    some (i.bytes.take n, ⟨i.bytes.drop n, i.size - n, by simp [i.size_eq]⟩)
  else
    none

theorem next?_nil : next? (ofBytes []) = none := rfl

theorem next?_cons (b : UInt8) (bs : List UInt8) :
    next? (ofBytes (b :: bs)) = some (b, ofBytes bs) := rfl

theorem take?_append (xs ys : List UInt8) :
    take? xs.length (ofBytes (xs ++ ys)) = some (xs, ofBytes ys) := by
  have h : xs.length ≤ (ofBytes (xs ++ ys)).size := by simp [ofBytes]
  rw [take?, if_pos h]
  simp only [Option.some.injEq, Prod.mk.injEq]
  exact ⟨by simp [ofBytes], ext (by simp [ofBytes])⟩

end Input

/-- Reads a value from the front of an input, or fails. -/
abbrev Reader (α : Type) := StateT Input (Except Failure) α

namespace Reader

/-- Fails with a cause. -/
def fail {α : Type} (cause : Cause) : Reader α := fun _ => .error (Failure.of cause)

/-- Reads inside a declared field: a failure passes through its place. -/
def inside {α : Type} (place : Place) (r : Reader α) : Reader α :=
  fun input => (r input).mapError (Failure.inside place)

/-- The number of unread bytes. -/
def remaining : Reader Nat := fun input => .ok (input.size, input)

/-- The next `n` bytes. -/
def take (n : Nat) : Reader (List UInt8) := fun input =>
  match input.take? n with
  | some (bytes, rest) => .ok (bytes, rest)
  | none => .error (Failure.of .underflow)

/-- Runs `step` until it answers `none` and collects what it answered before.  Every
answer of a step takes at least one byte, so a run over an input of `n` bytes has at
most `n` of them and `fuel` greater than `n` is never used up. -/
def collectWithin {α : Type} (step : Reader (Option α)) : (fuel : Nat) → Reader (List α)
  | 0 => pure []
  | fuel + 1 => do
    match ← step with
    | none => pure []
    | some a => return a :: (← collectWithin step fuel)

/-- Runs `step`, each of whose answers takes at least one byte, until it answers `none`. -/
def collect {α : Type} (step : Reader (Option α)) : Reader (List α) := fun input =>
  collectWithin step (input.size + 1) input

end Reader

end DeviceGen.Wire
