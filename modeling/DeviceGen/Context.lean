/-
What all files of a request have in common.
-/
import DeviceGen.Binding
import DeviceGen.Traced

namespace DeviceGen

/-- The enumerations and options of a request, and how many files were asked for. -/
structure Context where
  registry : Schema.Registry
  options : Options
  selected : Nat

/-- The bindings of a message in its role. -/
def Context.bindings (context : Context) (message : Schema.Message) : Traced (List Binding) :=
  Traced.ofExcept (Binding.ofMessage context.registry context.options message.role message)

end DeviceGen
