/-
The header of packed messages.

A header declares for each message a structure with the size of its packed form and the
functions that pack and unpack it.  Before the first structure that needs it stands the
type of an enumeration, under a guard of its own, because headers of different schema
files may declare the same enumeration and still be included together.
-/
import DeviceGen.Can.Message
import DeviceGen.Text.Lines

namespace DeviceGen.Can

open DeviceGen.C (enumBase enumGuard enumType guardName sizeMacro)
open DeviceGen.Schema (EnumValue Enumeration)
open DeviceGen.Text (unlines)

/-- The name of the generated header. -/
def headerName : String := "can.pb.h"

/-- The beginning of a header. -/
def headerPreamble (guard : String) : String :=
  unlines [
    "/**",
    "* Generated file!  Do not track.",
    "* Interface to pack and unpack data structures for CAN tx/rx.",
    "*/",
    "#ifndef " ++ guard,
    "#define " ++ guard,
    "",
    "#include <stdbool.h>",
    "#include <stddef.h>",
    "#include <stdint.h>"]

/-- The end of a header. -/
def headerEpilogue (guard : String) : String := unlines ["", "#endif /* " ++ guard ++ " */"]

/-! ### Structures -/

/-- The member of a structure for a binding. -/
def memberLine (binding : Binding) : String :=
  "  " ++ (memberType binding.representation).text ++ " " ++ memberOf binding ++ ";"

/-- The structure of a message, the size of its packed form, and its functions. -/
def structLines (message : String) (bindings : List Binding) : List String :=
  ["", "typedef struct \x7b"] ++ bindings.map memberLine
    ++ ["\x7d " ++ message ++ "_t;",
      "",
      "#define " ++ sizeMacro message ++ " " ++ toString (packedSize bindings) ++ "u",
      "",
      C.Routine.head .pack message ++ ";",
      C.Routine.head .unpack message ++ ";"]

/-- The declaration of a message; one that is not packed has none. -/
def declaration (message : Message) : Output.Part :=
  if message.isPacked then ⟨message.role, unlines (structLines message.name message.bindings)⟩
  else Output.Part.empty message.role

/-! ### Enumerations -/

/-- The enumerator of a named number. -/
def enumeratorLine (base : String) (value : EnumValue) : String :=
  "  " ++ base ++ "_" ++ value.label ++ " = " ++ toString value.number.toInt ++ ","

/-- The type of an enumeration under its own guard. -/
def enumLines (e : Enumeration) : List String :=
  ["", "#ifndef " ++ enumGuard e.name, "#define " ++ enumGuard e.name, "typedef enum \x7b"]
    ++ e.values.map (enumeratorLine (enumBase e.name))
    ++ ["\x7d " ++ enumType e.name ++ ";", "#endif /* " ++ enumGuard e.name ++ " */"]

/-- The enumeration that a representation chooses from. -/
def enumOf? : Representation → Option Enumeration
  | .choice enumName options => some ⟨enumName, options⟩
  | _ => none

/-- The enumerations of bindings that are not among those `seen`, each once, in the order
of their first use. -/
def freshEnums (seen : List String) : List Binding → List Enumeration
  | [] => []
  | b :: bs =>
    match enumOf? b.representation with
    | none => freshEnums seen bs
    | some e => if seen.contains e.name then freshEnums seen bs
      else e :: freshEnums (e.name :: seen) bs

/-- The declarations of packed messages, each after the enumerations that it is the first
to need; those `seen` are declared already. -/
def declarations (seen : List String) : List Message → List Output.Part
  | [] => []
  | m :: ms =>
    let fresh := freshEnums seen m.bindings
    ⟨m.role, unlines (fresh.flatMap enumLines) ++ (declaration m).text⟩
      :: declarations (fresh.map Enumeration.name ++ seen) ms

/-- The header of packed messages. -/
def header (name : String) (messages : List Message) : Output.File :=
  let guard := guardName name
  Output.assemble name (headerPreamble guard) (headerEpilogue guard) (declarations [] messages)

end DeviceGen.Can
