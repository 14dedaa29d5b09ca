/-
Things in a row: up to a mark, to the end of the input, or within an announced length.

A length is only a promise about where the row ends.  It is checked against the unread
bytes before the first thing is read, and the last thing may not reach beyond it; in
between nothing is cut off, so a thing inside the row sees all bytes that follow.
-/
import DeviceGen.Wire.Varint

namespace DeviceGen.Wire.Reader

/-- Reads things as long as more than `mark` bytes are unread. -/
def downTo {α : Type} (mark : Nat) (thing : Reader α) : Reader (List α) :=
  collect do
    if (← remaining) ≤ mark then return none
    else return some (← thing)

/-- Reads things until nothing is left. -/
def toEnd {α : Type} (thing : Reader α) : Reader (List α) := downTo 0 thing

/-- Reads a length and then things that fill it exactly. -/
def delimited {α : Type} (thing : Reader α) : Reader (List α) := do
  let length ← Varint.read
  let size ← remaining
  if size < length then fail .underflow
  else
    let mark := size - length
    let things ← downTo mark thing
    if (← remaining) < mark then fail .overrun
    else return things

end DeviceGen.Wire.Reader
