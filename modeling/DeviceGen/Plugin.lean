/-
A generator as a plugin of a schema compiler.

The compiler writes a request to the plugin and reads a response.  The response is
complete before its first byte is written, so nothing at all is written for a request
that cannot be answered.  Either end may fail; what has been written by then is written.
-/
import DeviceGen.Generator

namespace DeviceGen.Plugin

/-- Where a request is read from: bytes, and the fault that follows them, if any. -/
structure Inlet where
  bytes : List UInt8
  fault : Option Fault
  deriving DecidableEq, Repr

/-- Where a response is written to. -/
structure Outlet where
  /-- How many bytes are taken, if there is a limit. -/
  capacity : Option Nat
  /-- The fault that meets the first byte beyond the capacity. -/
  full : Fault
  /-- The fault that meets the flush after all bytes, if any. -/
  flush : Option Fault
  deriving DecidableEq, Repr

/-- What was written, and how writing ended. -/
structure Delivery where
  written : List UInt8
  result : Except Error Unit

/-- All bytes of an inlet that ends without a fault. -/
def Inlet.read (inlet : Inlet) : Except Error (List UInt8) :=
  match inlet.fault with
  | some fault => .error (.io fault)
  | none => .ok inlet.bytes

/-- Writes bytes and flushes. -/
def Outlet.deliver (outlet : Outlet) (bytes : List UInt8) : Delivery :=
  if outlet.capacity.any (· < bytes.length) then
    ⟨bytes.take (outlet.capacity.getD 0), .error (.io outlet.full)⟩
  else
    match outlet.flush with
    | some fault => ⟨bytes, .error (.io fault)⟩
    | none => ⟨bytes, .ok ()⟩

/-- The response to the request at an inlet. -/
def respond (generator : Generator) (inlet : Inlet) : Traced (List UInt8) := do
  let bytes ← Traced.ofExcept inlet.read
  Traced.log [.requestRead bytes.length]
  generator.run bytes

/-- Answers the request at an inlet through an outlet. -/
def serve (generator : Generator) (inlet : Inlet) (outlet : Outlet) : Delivery :=
  match (respond generator inlet).result with
  | .error e => ⟨[], .error e⟩
  | .ok response => outlet.deliver response

/-- The name of a generator's plugin. -/
def programName (generator : Generator) : String := "protoc-gen-" ++ generator.name

/-- What a plugin says when it fails. -/
def complaint (generator : Generator) (e : Error) : String :=
  programName generator ++ ": " ++ e.message ++ "\n"

end DeviceGen.Plugin
