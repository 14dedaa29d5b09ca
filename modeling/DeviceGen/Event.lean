/-
What a run reports on its way.

An event is a value with a level, a fixed text and a few named particulars.  A run
collects its events in order, whether it ends well or not.
-/
import DeviceGen.Options
import DeviceGen.Text.Quoted

namespace DeviceGen

/-- How urgent an event is, the most urgent first. -/
inductive Level where
  | warn
  | info
  | debug
  deriving DecidableEq, Repr

/-- How far down a level is. -/
def Level.rank : Level → Nat
  | warn => 0
  | info => 1
  | debug => 2

/-- The level with a name. -/
def Level.ofName? : String → Option Level
  | "warn" => some warn
  | "info" => some info
  | "debug" => some debug
  | _ => none

/-- The name of a level. -/
def Level.name : Level → String
  | warn => "WARN"
  | info => "INFO"
  | debug => "DEBUG"

/-- A step of a run that is worth a report. -/
inductive Event where
  | requestRead (size : Nat)
  | fileBuilt (file : String) (messages enums : Nat)
  | duplicateEnum (enumName file : String)
  | optionIgnored (complaint : Options.Complaint)
  | enumsCollected (enums : Nat) (options : Options)
  | unclassifiedMessage (message : String)
  | nothingToPack (message : String)
  | finished (generator : String) (inputs outputs : Nat)
  deriving DecidableEq, Repr

/-- A particular of an event. -/
inductive Detail where
  | text (value : String)
  | number (value : Nat)
  deriving DecidableEq, Repr

/-- A particular as text. -/
def Detail.shown : Detail → String
  | text value => Text.quote value
  | number value => toString value

namespace Event

/-- The level of an event. -/
def level : Event → Level
  | duplicateEnum .. | optionIgnored .. => .warn
  | finished .. => .info
  | _ => .debug

/-- The text of an event. -/
def text : Event → String
  | requestRead .. => "read request"
  | fileBuilt .. => "built file schema"
  | duplicateEnum .. => "duplicate enum declaration ignored"
  | optionIgnored (.malformed _) => "ignoring malformed generator option"
  | optionIgnored (.noModulePath _) => "client_module needs a module path"
  | optionIgnored (.noTruthValue _) => "keep_case expects true or false"
  | optionIgnored (.unknownKey _) => "ignoring unknown generator option"
  | enumsCollected .. => "collected enums"
  | unclassifiedMessage .. => "no widget for unclassified message"
  | nothingToPack .. => "no packable fields"
  | finished .. => "generation finished"

/-- Options in one line. -/
def optionsText (options : Options) : String :=
  "GeneratorOptions \x7b client_module: " ++ Text.quote options.clientModule ++ ", keep_case: "
    ++ toString options.keepCase ++ " \x7d"

/-- The particulars of an event by their names. -/
def details : Event → List (String × Detail)
  | requestRead size => [("bytes", .number size)]
  | fileBuilt file messages enums =>
      [("file", .text file), ("messages", .number messages), ("enums", .number enums)]
  | duplicateEnum enumName file => [("enum_name", .text enumName), ("file", .text file)]
  | optionIgnored (.malformed entry) => [("entry", .text entry)]
  | optionIgnored (.noModulePath entry) => [("entry", .text entry)]
  | optionIgnored (.noTruthValue entry) => [("entry", .text entry)]
  | optionIgnored (.unknownKey key) => [("key", .text key)]
  | enumsCollected enums options =>
      [("enums", .number enums), ("options", .text (optionsText options))]
  | unclassifiedMessage message => [("message", .text message)]
  | nothingToPack message => [("message", .text message)]
  | finished generator inputs outputs =>
      [("generator", .text generator), ("inputs", .number inputs), ("outputs", .number outputs)]

/-- The events that are at least as urgent as a level. -/
def upTo (level : Level) (events : List Event) : List Event :=
  events.filter fun e => e.level.rank ≤ level.rank

/-- An event in one line. -/
def line (e : Event) : String :=
  e.level.name ++ " " ++ e.text
    ++ String.join (e.details.map fun (name, detail) => " " ++ name ++ "=" ++ detail.shown)

end Event

end DeviceGen
