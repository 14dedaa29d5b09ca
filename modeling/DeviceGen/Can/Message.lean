/-
Messages that are packed.

Only messages with a role and with at least one bound field are packed: a structure
needs a member.
-/
import DeviceGen.Can.Layout
import DeviceGen.Output

namespace DeviceGen.Can

open DeviceGen.Schema (Role)

/-- A message with its role and its bindings. -/
structure Message where
  name : String
  role : Role
  bindings : List Binding
  deriving DecidableEq, Repr

/-- Whether there is something to pack. -/
def Message.isPacked (message : Message) : Bool :=
  message.role ≠ .unclassified && !message.bindings.isEmpty

end DeviceGen.Can
