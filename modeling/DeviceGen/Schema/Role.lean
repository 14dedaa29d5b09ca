/-
What a message is for.

The name of a message says whether it is sent to a device or comes from one.  Nothing
is generated for messages whose names say neither.
-/
import DeviceGen.Schema.Basic

namespace DeviceGen.Schema

/-- The direction in which messages travel. -/
inductive Role where
  /-- Edited by a user and sent to a device. -/
  | outgoing
  /-- Received from a device and shown. -/
  | incoming
  | unclassified
  deriving DecidableEq, Repr

namespace Role

/-- The role that a name says. -/
def ofName (name : String) : Role :=
  if Text.hasEnding "Ctl" name then outgoing
  else if Text.hasEnding "Tlm" name then incoming
  else unclassified

end Role

/-- The role of a message. -/
def Message.role (message : Message) : Role := Role.ofName message.name

end DeviceGen.Schema
