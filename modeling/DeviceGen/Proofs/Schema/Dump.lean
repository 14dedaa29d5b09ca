/-
Models that are dumped and read back.

The document that shows a model names every part of it, so the parts can be looked up there again
by their names.  A dump is that document by the grammar of JSON; hence whoever reads the dump
reads the model, and models with the same dump are the same (`dump_lossless`).
-/
import DeviceGen.Proofs.Text.Json.Printed
import DeviceGen.Schema.Json

namespace DeviceGen

/-! ### Looking into documents -/

namespace Text.Document

variable {α : Type}

/-- What stands under a key, if the document is an object in which the key stands once. -/
def member? (key : String) : Document → Option Document
  | .object members =>
    match members.filter (·.1 = key) with
    | [(_, d)] => some d
    | _ => none
  | _ => none

/-- The text that a document is. -/
def text? : Document → Option String
  | .text t => some t
  | _ => none

/-- The integer of 32 bits that a document is. -/
def int32? : Document → Option Int32
  | .number n exponent =>
    if exponent = 0 ∧ Int32.minValue.toInt ≤ n ∧ n ≤ Int32.maxValue.toInt then some (Int32.ofInt n)
    else none
  | _ => none

/-- The items of an array, if each of them can be understood. -/
def list? (item? : Document → Option α) : Document → Option (List α)
  | .array items => items.mapM item?
  | _ => none

/-- Nothing, or something that can be understood. -/
def optional? (item? : Document → Option α) : Document → Option (Option α)
  | .null => some none
  | d => (item? d).map some

/-- An array of things that are shown can be understood if each of them can. -/
theorem list?_map {item? : Document → Option α} {shown : α → Json}
    (h : ∀ a, item? (shown a).toDocument = some a) (as : List α) :
    list? item? (Json.array (as.map shown)).toDocument = some as := by
  rw [Json.toDocument, Json.toDocuments_eq, list?, List.map_map]
  induction as with
  | nil => rfl
  | cons a as ih =>
      rw [List.map_cons, List.mapM_cons, Function.comp, h, ih]
      rfl

theorem int32?_toInt (n : Int32) : int32? (.number n.toInt 0) = some n := by
  have hrange : Int32.minValue.toInt ≤ n.toInt ∧ n.toInt ≤ Int32.maxValue.toInt :=
    ⟨n.minValue_le_toInt, n.toInt_le⟩
  rw [int32?, if_pos ⟨rfl, hrange⟩, Int32.ofInt_toInt]

end Text.Document

/-! ### Models by their documents -/

namespace Schema

open DeviceGen.Text (Document Json)
open DeviceGen.Text.Json (IsDocument)

/-- The text that is shown, or nothing. -/
def optionalText? (d : Document) : Option (Option String) := d.optional? Document.text?

/-- The type with a name; an enumeration stands under the name of its kind. -/
def ValueType.ofDocument : Document → Option ValueType
  | .text "Int32" => some int32
  | .text "Int64" => some int64
  | .text "UInt32" => some uint32
  | .text "UInt64" => some uint64
  | .text "Float" => some float
  | .text "Double" => some double
  | .text "Bool" => some bool
  | .text "Message" => some message
  | .text "Other" => some other
  | .object [("Enum", d)] => do return enumeration (← (← d.member? "type_name").text?)
  | _ => none

/-- The named number that a document shows. -/
def EnumValue.ofDocument (d : Document) : Option EnumValue := do
  let label ← (← d.member? "label").text?
  let number ← (← d.member? "number").int32?
  return ⟨label, number⟩

/-- The enumeration that a document shows. -/
def Enumeration.ofDocument (d : Document) : Option Enumeration := do
  let name ← (← d.member? "name").text?
  let values ← (← d.member? "values").list? EnumValue.ofDocument
  return ⟨name, values⟩

/-- The field that a document shows. -/
def Field.ofDocument (d : Document) : Option Field := do
  let name ← (← d.member? "name").text?
  let number ← (← d.member? "number").int32?
  let type ← ValueType.ofDocument (← d.member? "wire")
  return ⟨name, number, type⟩

/-- The message that a document shows. -/
def Message.ofDocument (d : Document) : Option Message := do
  let name ← (← d.member? "name").text?
  let fields ← (← d.member? "fields").list? Field.ofDocument
  return ⟨name, fields⟩

/-- The file that a document shows. -/
def File.ofDocument (d : Document) : Option File := do
  let name ← (← d.member? "name").text?
  let package ← optionalText? (← d.member? "package")
  let messages ← (← d.member? "messages").list? Message.ofDocument
  let enums ← (← d.member? "enums").list? Enumeration.ofDocument
  return ⟨name, package, messages, enums⟩

/-- The model that a document shows. -/
def Model.ofDocument (d : Document) : Option Model := do
  let files ← (← d.member? "files").list? File.ofDocument
  let selected ← (← d.member? "files_to_generate").list? Document.text?
  let parameter ← optionalText? (← d.member? "parameter")
  return ⟨files, selected, parameter⟩

theorem optionalText?_toDocument (text : Option String) :
    optionalText? (optionalText text).toDocument = some text := by
  cases text <;> rfl

theorem ValueType.ofDocument_toDocument (type : ValueType) :
    ofDocument type.toJson.toDocument = some type := by
  cases type <;> rfl

theorem EnumValue.ofDocument_toDocument (v : EnumValue) :
    ofDocument v.toJson.toDocument = some v := by
  have hlabel : v.toJson.toDocument.member? "label" = some (.text v.label) := rfl
  have hnumber : v.toJson.toDocument.member? "number" = some (.number v.number.toInt 0) := rfl
  simp only [ofDocument, hlabel, hnumber, Option.bind_eq_bind, Option.bind_some, Document.text?,
    Document.int32?_toInt]
  rfl

theorem Enumeration.ofDocument_toDocument (e : Enumeration) :
    ofDocument e.toJson.toDocument = some e := by
  have hname : e.toJson.toDocument.member? "name" = some (.text e.name) := rfl
  have hvalues : e.toJson.toDocument.member? "values"
      = some (Json.array (e.values.map EnumValue.toJson)).toDocument := rfl
  simp only [ofDocument, hname, hvalues, Option.bind_eq_bind, Option.bind_some, Document.text?,
    Document.list?_map EnumValue.ofDocument_toDocument]
  rfl

theorem Field.ofDocument_toDocument (field : Field) :
    ofDocument field.toJson.toDocument = some field := by
  have hname : field.toJson.toDocument.member? "name" = some (.text field.name) := rfl
  have hnumber : field.toJson.toDocument.member? "number"
      = some (.number field.number.toInt 0) := rfl
  have htype : field.toJson.toDocument.member? "wire" = some field.type.toJson.toDocument := rfl
  simp only [ofDocument, hname, hnumber, htype, Option.bind_eq_bind, Option.bind_some,
    Document.text?, Document.int32?_toInt, ValueType.ofDocument_toDocument]
  rfl

theorem Message.ofDocument_toDocument (m : Message) :
    ofDocument m.toJson.toDocument = some m := by
  have hname : m.toJson.toDocument.member? "name" = some (.text m.name) := rfl
  have hfields : m.toJson.toDocument.member? "fields"
      = some (Json.array (m.fields.map Field.toJson)).toDocument := rfl
  simp only [ofDocument, hname, hfields, Option.bind_eq_bind, Option.bind_some, Document.text?,
    Document.list?_map Field.ofDocument_toDocument]
  rfl

theorem File.ofDocument_toDocument (file : File) :
    ofDocument file.toJson.toDocument = some file := by
  have hname : file.toJson.toDocument.member? "name" = some (.text file.name) := rfl
  have hpackage : file.toJson.toDocument.member? "package"
      = some (optionalText file.package).toDocument := rfl
  have hmessages : file.toJson.toDocument.member? "messages"
      = some (Json.array (file.messages.map Message.toJson)).toDocument := rfl
  have henums : file.toJson.toDocument.member? "enums"
      = some (Json.array (file.enums.map Enumeration.toJson)).toDocument := rfl
  simp only [ofDocument, hname, hpackage, hmessages, henums, Option.bind_eq_bind,
    Option.bind_some, Document.text?, optionalText?_toDocument,
    Document.list?_map Message.ofDocument_toDocument,
    Document.list?_map Enumeration.ofDocument_toDocument]
  rfl

/-- **A model is found again in the document that shows it.** -/
theorem Model.ofDocument_toDocument (model : Model) :
    ofDocument model.toJson.toDocument = some model := by
  have hfiles : model.toJson.toDocument.member? "files"
      = some (Json.array (model.files.map File.toJson)).toDocument := rfl
  have hselected : model.toJson.toDocument.member? "files_to_generate"
      = some (Json.array (model.selected.map Json.text)).toDocument := rfl
  have hparameter : model.toJson.toDocument.member? "parameter"
      = some (optionalText model.parameter).toDocument := rfl
  have htext (t : String) : (Json.text t).toDocument.text? = some t := rfl
  simp only [ofDocument, hfiles, hselected, hparameter, Option.bind_eq_bind, Option.bind_some,
    optionalText?_toDocument, Document.list?_map File.ofDocument_toDocument,
    Document.list?_map htext]
  rfl

/-- Whatever reads the dump of a model by the grammar has the model. -/
theorem Model.ofDocument_of_dump {model : Model} {d : Document}
    (h : IsDocument d model.dump.toList) : ofDocument d = some model := by
  rw [h.unique (Text.Json.isDocument_print model.toJson), ofDocument_toDocument]

/-- **Dumps are lossless.**  The dump of a model is a well-formed JSON text; what is read from it
is a document that shows the model; and only one model has that dump. -/
theorem Model.dump_lossless (model other : Model) :
    (∃ d, IsDocument d model.dump.toList)
      ∧ (Text.Json.read model.dump).bind ofDocument = some model
      ∧ (model.dump = other.dump ↔ model = other) := by
  have hread (m : Model) : (Text.Json.read m.dump).bind ofDocument = some m := by
    rw [dump, Text.Json.read_print, Option.bind_some]
    exact ofDocument_of_dump (Text.Json.isDocument_print m.toJson)
  refine ⟨⟨_, Text.Json.isDocument_print model.toJson⟩, hread model, fun h => ?_, congrArg dump⟩
  have hsame := hread model
  rw [h, hread other] at hsame
  exact (Option.some.inj hsame).symm

end Schema

end DeviceGen
