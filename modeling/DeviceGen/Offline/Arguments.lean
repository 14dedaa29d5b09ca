/-
The arguments of the offline command.

The first argument says what to do.  After it come options with values, in any order:
the value follows as an argument of its own, or after an equals sign, or directly after
the letter of a short option.  All options but the one that selects files may be given
once.  Paths are not empty.
-/
import DeviceGen.Generator

namespace DeviceGen.Offline

/-- What the offline command is asked to do. -/
inductive Command where
  /-- Generate code for files of a set; none named means all of them. -/
  | generate (generator : Generator) (set : String) (files : List String)
      (parameter : Option String) (out : String)
  /-- Show the model of a set. -/
  | inspect (set : String)
  deriving DecidableEq, Repr

/-- Why arguments ask for nothing to be done. -/
inductive Refusal where
  | help
  | usage
  deriving DecidableEq, Repr

/-- The options that take a value. -/
inductive OptionName where
  | set
  | file
  | parameter
  | out
  deriving DecidableEq, Repr

namespace OptionName

/-- The option with a long name. -/
def ofLong? : String → Option OptionName
  | "descriptor-set" => some set
  | "file" => some file
  | "param" => some parameter
  | "out" => some out
  | _ => none

/-- The option with a letter. -/
def ofShort? : Char → Option OptionName
  | 'd' => some set
  | 'f' => some file
  | 'p' => some parameter
  | 'o' => some out
  | _ => none

/-- Whether the option also goes with showing a model. -/
def isGeneral : OptionName → Bool
  | set => true
  | file | parameter | out => false

end OptionName

/-- The options given so far. -/
structure Given where
  set : Option String
  files : List String
  parameter : Option String
  out : Option String
  deriving DecidableEq, Repr

namespace Given

/-- No options at all. -/
def none : Given := ⟨.none, [], .none, .none⟩

/-- One more option with its value; not twice, and no empty path. -/
def put (given : Given) (name : OptionName) (value : String) : Except Refusal Given :=
  match name with
  | .set =>
    if given.set.isSome ∨ value.isEmpty then .error .usage
    else .ok { given with set := some value }
  | .file => .ok { given with files := given.files ++ [value] }
  | .parameter =>
    if given.parameter.isSome then .error .usage
    else .ok { given with parameter := some value }
  | .out =>
    if given.out.isSome ∨ value.isEmpty then .error .usage
    else .ok { given with out := some value }

end Given

/-- What an argument is. -/
inductive Token where
  /-- An option, with its value if that is part of the argument. -/
  | option (name : OptionName) (value : Option String)
  | help
  /-- Two dashes, after which nothing is an option. -/
  | dashes
  /-- Anything else. -/
  | plain
  deriving DecidableEq, Repr

namespace Token

/-- The value that is attached to a long name, if there is an equals sign. -/
def attached? : List Char → Option (List Char)
  | [] => none
  | c :: cs => if c = '=' then some cs else attached? cs

/-- The value that is attached to a letter, if anything is; an equals sign is not part of it. -/
def afterLetter : List Char → Option String
  | [] => none
  | '=' :: cs => some (String.ofList cs)
  | cs => some (String.ofList cs)

/-- Takes an argument for what it is; options that are not known are plain. -/
def ofChars : List Char → Token
  | ['-', '-'] => dashes
  | '-' :: '-' :: cs =>
    let name := String.ofList (cs.takeWhile (· ≠ '='))
    let value := (attached? cs).map String.ofList
    if name = "help" ∧ value.isNone then help
    else ((OptionName.ofLong? name).map (option · value)).getD plain
  | '-' :: letter :: cs =>
    if letter = 'h' then help
    else ((OptionName.ofShort? letter).map (option · (afterLetter cs))).getD plain
  | _ => plain

/-- Whether an argument cannot be the value of the option before it. -/
def isDashed : List Char → Bool
  | '-' :: _ :: _ => true
  | _ => false

end Token

/-- Collects options; `general` if only those are allowed that go with every command. -/
def collect (general : Bool) : List String → Given → Except Refusal Given
  | [], given => .ok given
  | argument :: rest, given =>
    match Token.ofChars argument.toList with
    | .help => .error .help
    | .plain => .error .usage
    | .dashes => if rest.isEmpty then .ok given else .error .usage
    | .option name value =>
      if general ∧ ¬ name.isGeneral then .error .usage
      else
        match value, rest with
        | some value, rest => given.put name value >>= collect general rest
        | none, [] => .error .usage
        | none, value :: rest =>
          if Token.isDashed value.toList then .error .usage
          else given.put name value >>= collect general rest

/-- The command to generate code with the options given; a set is needed, and the output
goes to the current directory if nothing else is said. -/
def generateCommand (generator : Generator) (given : Given) : Except Refusal Command :=
  match given.set with
  | none => .error .usage
  | some set => .ok (.generate generator set given.files given.parameter (given.out.getD "."))

/-- The command to show a model with the options given. -/
def inspectCommand (given : Given) : Except Refusal Command :=
  match given.set with
  | none => .error .usage
  | some set => .ok (.inspect set)

/-- What there is help on. -/
def helpTopics : List String := ["widgets", "can", "inspect", "help"]

/-- What arguments ask for. -/
def Command.ofArguments : List String → Except Refusal Command
  | "widgets" :: rest => collect false rest .none >>= generateCommand .widgets
  | "can" :: rest => collect false rest .none >>= generateCommand .can
  | "inspect" :: rest => collect true rest .none >>= inspectCommand
  | ["help"] => .error .help
  | ["help", topic] => .error (if helpTopics.contains topic then .help else .usage)
  | first :: _ => if Token.ofChars first.toList = .help then .error .help else .error .usage
  | [] => .error .usage

end DeviceGen.Offline
