/-
JSON documents and their printed form.

The printed form has every item and every member on a line of its own, two blanks
further in than what it belongs to, and an empty array or object on one line.
-/
import DeviceGen.Text.Quoted

namespace DeviceGen.Text

/-- A JSON document whose numbers are integers. -/
inductive Json where
  | null
  | number (value : Int)
  | text (value : String)
  | array (items : List Json)
  | object (members : List (String × Json))

namespace Json

/-- As many blanks as a line is indented. -/
def blanks (indent : Nat) : String := String.ofList (List.replicate indent ' ')

/-- Parts between brackets, each on a line of its own. -/
def block (opening closing : String) (indent : Nat) (parts : List String) : String :=
  if parts.isEmpty then opening ++ closing
  else
    opening ++ "\n"
      ++ String.intercalate ",\n" (parts.map (blanks (indent + 2) ++ ·))
      ++ "\n" ++ blanks indent ++ closing

mutual

/-- The printed form of a document that starts on a line indented by `indent`. -/
def pretty (indent : Nat) : Json → String
  | null => "null"
  | number value => toString value
  | text value => quote value
  | array items => block "[" "]" indent (prettyItems (indent + 2) items)
  | object members => block "\x7b" "\x7d" indent (prettyMembers (indent + 2) members)

/-- The printed forms of the items of an array. -/
def prettyItems (indent : Nat) : List Json → List String
  | [] => []
  | item :: items => pretty indent item :: prettyItems indent items

/-- The printed forms of the members of an object. -/
def prettyMembers (indent : Nat) : List (String × Json) → List String
  | [] => []
  | (key, value) :: members =>
    (quote key ++ ": " ++ pretty indent value) :: prettyMembers indent members

end

/-- The printed form of a whole document. -/
def print (document : Json) : String := document.pretty 0

end Json

end DeviceGen.Text
