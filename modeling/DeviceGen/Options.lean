/-
The parameter of a generator.

A parameter is a list of entries between commas, each a key that may have a value.
Every entry that is not blank has a verdict: a setting, or a complaint.  Settings take
effect in the order of the entries, so the last one of a kind counts; complaints are
passed on and change nothing.
-/
import DeviceGen.Text.Blank

namespace DeviceGen

/-- What the generators let their user choose. -/
structure Options where
  /-- The module that web code takes its connection to the devices from. -/
  clientModule : String
  /-- Whether keys are the names of fields as they are, not in mixed case. -/
  keepCase : Bool
  deriving DecidableEq, Repr

namespace Options

/-- What holds if nothing is chosen. -/
def default : Options := ⟨"../mqclient", false⟩

/-- What one entry chooses. -/
inductive Setting where
  | clientModule (path : String)
  | keepCase (keep : Bool)
  deriving DecidableEq, Repr

/-- Why an entry chooses nothing.  An entry is shown as it stands between the commas. -/
inductive Complaint where
  /-- The entry is not a key, nor a key and a value. -/
  | malformed (entry : String)
  /-- The value is no path of a module. -/
  | noModulePath (entry : String)
  /-- The value is neither of the two truth values. -/
  | noTruthValue (entry : String)
  /-- Nothing is known by this key. -/
  | unknownKey (key : String)
  deriving DecidableEq, Repr

/-! ### The grammar of entries -/

/-- Letters and the underscore. -/
def isKeyStart (c : Char) : Bool := c.isAlpha || c == '_'

/-- Letters, digits and the underscore. -/
def isKeyChar (c : Char) : Bool := c.isAlphanum || c == '_'

/-- A key starts with a letter or an underscore and goes on with those and digits. -/
def isKey : List Char → Bool
  | [] => false
  | c :: cs => isKeyStart c && cs.all isKeyChar

/-- The characters of module paths. -/
def isPathChar (c : Char) : Bool := c.isAlphanum || ['_', '@', '.', '/', '-'].contains c

/-- A module path is not empty. -/
def isModulePath (cs : List Char) : Bool := !cs.isEmpty && cs.all isPathChar

/-- The text after the first equals sign, if there is one. -/
def afterEquals? : List Char → Option (List Char)
  | [] => none
  | c :: cs => if c = '=' then some cs else afterEquals? cs

/-- A key and its value, both without blanks around them.  The value is on one line. -/
def assignment? (entry : List Char) : Option (String × Option String) :=
  let key := Text.trim (entry.takeWhile (· ≠ '='))
  let value := (afterEquals? entry).map Text.trim
  if isKey key ∧ ¬ value.any (·.contains '\n') then
    some (String.ofList key, value.map String.ofList)
  else none

/-! ### The meaning of entries -/

/-- What an entry with a key and a value chooses. -/
def setting (entry key : String) (value : Option String) : Except Complaint Setting :=
  match key, value with
  | "client_module", some path =>
    if isModulePath path.toList then .ok (.clientModule path) else .error (.noModulePath entry)
  | "client_module", none => .error (.noModulePath entry)
  | "keep_case", none => .ok (.keepCase true)
  | "keep_case", some "true" => .ok (.keepCase true)
  | "keep_case", some "false" => .ok (.keepCase false)
  | "keep_case", some _ => .error (.noTruthValue entry)
  | _, _ => .error (.unknownKey key)

/-- What an entry chooses. -/
def verdict (entry : List Char) : Except Complaint Setting :=
  match assignment? entry with
  | some (key, value) => setting (String.ofList entry) key value
  | none => .error (.malformed (String.ofList entry))

/-- The entries of a parameter that are not blank. -/
def entries (parameter : Option String) : List (List Char) :=
  match parameter with
  | none => []
  | some text => (Text.pieces ',' text.toList).filter fun entry => !(Text.trim entry).isEmpty

/-- What the entries of a parameter choose, in their order. -/
def settings (parameter : Option String) : List Setting :=
  (entries parameter).filterMap fun entry => (verdict entry).toOption

/-- What there is to say against the entries of a parameter, in their order. -/
def complaints (parameter : Option String) : List Complaint :=
  (entries parameter).filterMap fun entry =>
    match verdict entry with
    | .error complaint => some complaint
    | .ok _ => none

/-- The options after one more setting. -/
def choose (options : Options) : Setting → Options
  | .clientModule path => { options with clientModule := path }
  | .keepCase keep => { options with keepCase := keep }

/-- The options that a parameter chooses. -/
def ofParameter (parameter : Option String) : Options :=
  (settings parameter).foldl choose default

end Options

end DeviceGen
