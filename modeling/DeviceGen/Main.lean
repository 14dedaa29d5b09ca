/-
The programs: two plugins of a schema compiler and the offline command.

All three are one program that looks at the name it was started by.  It does nothing but
connect the surroundings (standard streams, files, the environment) to the functions
that decide what is done.  Events go to the standard error, those at least as urgent as
the level that the environment names.
-/
import DeviceGen.Offline.Run
import DeviceGen.Plugin

namespace DeviceGen.Main

/-- The environment variable that names the least urgent level to be reported. -/
def levelVariable : String := "FIRMENT_LOG"

/-- Reports events on the standard error; warnings if the environment says nothing. -/
def report (events : List Event) : IO Unit := do
  let level := match ← IO.getEnv levelVariable with
    | none => some Level.warn
    | some name => Level.ofName? name
  match level with
  | none => return ()
  | some level =>
    for event in Event.upTo level events do
      IO.eprintln event.line

/-- The number that the system gives a failure, if it gives one. -/
def codeOf? : IO.Error → Option Nat
  | .alreadyExists _ code _ => some code.toNat
  | .noFileOrDirectory _ code _ => some code.toNat
  | .permissionDenied _ code _ => some code.toNat
  | .inappropriateType _ code _ => some code.toNat
  | .noSuchThing _ code _ => some code.toNat
  | .invalidArgument _ code _ => some code.toNat
  | .resourceExhausted _ code _ => some code.toNat
  | .otherError code _ => some code.toNat
  | _ => none

/-- A failure as a fault. -/
def faultOf (e : IO.Error) : Fault :=
  match (codeOf? e).bind SystemFault.ofCode? with
  | some fault => .system fault
  | none => .custom (toString e)

/-- Tries an action. -/
def attempt {α : Type} (action : IO α) : IO (Except Fault α) :=
  try return .ok (← action) catch e => return .error (faultOf e)

/-- The real file system. -/
def fileSystem : Offline.FileSystem IO where
  read path := attempt do return (← IO.FS.readBinFile path).data.toList
  makeDirectory path := attempt (IO.FS.createDir path)
  isDirectory path := do
    try (← IO.FS.realPath path).isDir catch _ => return false
  write path bytes := attempt (IO.FS.writeBinFile path ⟨bytes.toArray⟩)
  print text := do IO.print text
  report events := report events

/-- Answers the request at the standard input. -/
def plugin (generator : Generator) : IO UInt32 := do
  let stdin ← IO.getStdin
  let inlet : Plugin.Inlet ← match ← attempt stdin.readBinToEnd with
    | .ok bytes => pure ⟨bytes.data.toList, none⟩
    | .error fault => pure ⟨[], some fault⟩
  let response := Plugin.respond generator inlet
  report response.events
  let fail (e : Error) : IO UInt32 := do
    IO.eprint (Plugin.complaint generator e)
    return 1
  match response.result with
  | .error e => fail e
  | .ok bytes =>
    let stdout ← IO.getStdout
    match ← attempt (do stdout.write ⟨bytes.toArray⟩; stdout.flush) with
    | .ok () => return 0
    | .error fault => fail (.io fault)

/-- How the offline command is used. -/
def usage : String :=
  Text.unlines [
    "Usage: <program> widgets -d <SET> [-f <FILE>]... [-p <PARAMETER>] [-o <DIRECTORY>]",
    "       <program> can -d <SET> [-f <FILE>]... [-p <PARAMETER>] [-o <DIRECTORY>]",
    "       <program> inspect -d <SET>"]

/-- Runs the offline command. -/
def offline (arguments : List String) : IO UInt32 := do
  match Offline.Command.ofArguments arguments with
  | .error .help => IO.print usage
  | .error .usage => IO.eprint usage
  | .ok _ => pure ()
  let outcome ← Offline.run fileSystem arguments
  IO.eprint outcome.complaint
  return UInt32.ofNat outcome.code

end DeviceGen.Main

/-- Does what the name of the program says: a plugin's name starts that plugin, and any
other name the offline command. -/
def main (arguments : List String) : IO UInt32 := do
  let name := (← IO.appPath).fileName.getD ""
  if name = DeviceGen.Plugin.programName .widgets then DeviceGen.Main.plugin .widgets
  else if name = DeviceGen.Plugin.programName .can then DeviceGen.Main.plugin .can
  else DeviceGen.Main.offline arguments
