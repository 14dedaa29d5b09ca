/-
The files that code is asked for.
-/
import DeviceGen.Error
import DeviceGen.Schema.Basic

namespace DeviceGen.Schema.Model

/-- The first file with each of the names; a name that no file has is an error. -/
def select (model : Model) : List String → Except Error (List File)
  | [] => .ok []
  | name :: names => do
    match model.file? name with
    | none => .error (.missingFile name)
    | some file => return file :: (← model.select names)

/-- The files that code is asked for, in the order of the request. -/
def selection (model : Model) : Except Error (List File) := model.select model.selected

end DeviceGen.Schema.Model
