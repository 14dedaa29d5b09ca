/-
What the offline command needs of its surroundings, and a model of it.

The command reads one file, makes directories, writes files, prints lines and reports
events.  It is written for anything that offers these; the real file system is one such
thing, and the model below, which keeps no reports, is another.

The model is a tree of directories and files with a current directory in it.  It refuses
what a file system refuses: ways through things that are not directories, names that are
too long, and reading or writing directories as if they were files.
-/
import DeviceGen.Event
import DeviceGen.Fault
import DeviceGen.Offline.Path

namespace DeviceGen.Offline

/-- Files, directories and a place to print to. -/
structure FileSystem (m : Type → Type) where
  /-- The bytes of a file. -/
  read : (path : String) → m (Except Fault (List UInt8))
  /-- Makes a directory where there is nothing yet. -/
  makeDirectory : (path : String) → m (Except Fault Unit)
  /-- Whether a path leads to a directory. -/
  isDirectory : (path : String) → m Bool
  /-- Makes a file, or replaces its bytes. -/
  write : (path : String) → (bytes : List UInt8) → m (Except Fault Unit)
  /-- Prints text. -/
  print : (text : String) → m Unit
  /-- Reports events. -/
  report : (events : List Event) → m Unit

/-- Something that a name in a directory stands for. -/
inductive Entry where
  | directory
  | file (bytes : List UInt8)
  deriving DecidableEq, Repr

/-- A tree of directories and files.  Everything but the root has an entry, under the
names on the way from the root. -/
structure Workspace where
  entries : List (List String × Entry)
  /-- The current directory. -/
  current : List String
  /-- What was printed. -/
  printed : String
  deriving DecidableEq, Repr

namespace Workspace

/-- What is at a place. -/
def entry? (w : Workspace) (place : List String) : Option Entry :=
  if place = [] then some .directory else w.entries.lookup place

/-- Puts something at a place. -/
def put (w : Workspace) (place : List String) (entry : Entry) : Workspace :=
  { w with entries := w.entries.filter (·.1 ≠ place) ++ [(place, entry)] }

/-- The most bytes a name may have. -/
def longestName : Nat := 255

/-- The most bytes a path may have. -/
def longestPath : Nat := 4095

/-- Where a name in a directory leads, whether there is anything or not. -/
def child (directory : List String) (name : String) : List String :=
  if name = "." then directory
  else if name = ".." then directory.dropLast
  else directory ++ [name]

/-- Goes into a directory. -/
def enter (w : Workspace) (directory : List String) (name : String) :
    Except SystemFault (List String) :=
  if longestName < name.utf8ByteSize then .error .nameTooLong
  else
    match w.entry? (child directory name) with
    | some .directory => .ok (child directory name)
    | some (.file _) => .error .notDirectory
    | none => .error .notFound

/-- Goes into one directory after another. -/
def walk (w : Workspace) : (directory : List String) → List String →
    Except SystemFault (List String)
  | directory, [] => .ok directory
  | directory, name :: names => do w.walk (← w.enter directory name) names

/-- Where a path starts. -/
def start (w : Workspace) (path : Path) : List String := if path.absolute then [] else w.current

/-- Refuses texts that no path can have. -/
def checkPath (text : String) : Except Fault Path :=
  if text.contains '\x00' then .error .nulInName
  else if text.isEmpty then .error (.system .notFound)
  else if longestPath < text.utf8ByteSize then .error (.system .nameTooLong)
  else .ok (Path.ofString text)

/-- The place that a path leads to; everything on the way must be a directory. -/
def resolve (w : Workspace) (path : Path) : Except SystemFault (List String) := do
  match path.parts.getLast? with
  | none => return w.start path
  | some name =>
    let directory ← w.walk (w.start path) path.parts.dropLast
    if longestName < name.utf8ByteSize then .error .nameTooLong
    else return child directory name

/-- The bytes of the file that a path leads to. -/
def read (w : Workspace) (text : String) : Except Fault (List UInt8) := do
  let path ← checkPath text
  let place ← (w.resolve path).mapError Fault.system
  match w.entry? place with
  | some (.file bytes) => if path.directory then .error (.system .notDirectory) else .ok bytes
  | some .directory => .error (.system .isDirectory)
  | none => .error (.system .notFound)

/-- The workspace with a file where a path leads to. -/
def write (w : Workspace) (text : String) (bytes : List UInt8) : Except Fault Workspace := do
  let path ← checkPath text
  let place ← (w.resolve path).mapError Fault.system
  if path.directory then .error (.system .isDirectory)
  else
    match w.entry? place with
    | some .directory => .error (.system .isDirectory)
    | _ => .ok (w.put place (.file bytes))

/-- The workspace with a directory where a path leads to. -/
def makeDirectory (w : Workspace) (text : String) : Except Fault Workspace := do
  let path ← checkPath text
  let place ← (w.resolve path).mapError Fault.system
  match w.entry? place with
  | some _ => .error (.system .alreadyExists)
  | none => .ok (w.put place .directory)

/-- Whether a path leads to a directory. -/
def isDirectory (w : Workspace) (text : String) : Bool :=
  match checkPath text with
  | .error _ => false
  | .ok path =>
    match w.resolve path with
    | .error _ => false
    | .ok place => w.entry? place = some .directory

/-- Whether a place is below the current directory. -/
def isBelowCurrent (w : Workspace) (place : List String) : Bool :=
  w.current.isPrefixOf place && w.current.length < place.length

/-- The files below the current directory, with their places as seen from there. -/
def files (w : Workspace) : List (List String × List UInt8) :=
  w.entries.filterMap fun (place, entry) =>
    match entry with
    | .file bytes =>
      if w.isBelowCurrent place then some (place.drop w.current.length, bytes) else none
    | .directory => none

/-- Goes on with the workspace that a change leads to, and stays if there is none. -/
def change (attempt : Workspace → Except Fault Workspace) : StateM Workspace (Except Fault Unit) :=
  fun w =>
    match attempt w with
    | .ok changed => (.ok (), changed)
    | .error fault => (.error fault, w)

/-- A workspace as a file system. -/
def fileSystem : FileSystem (StateM Workspace) where
  read path := do return (← get).read path
  makeDirectory path := change (·.makeDirectory path)
  isDirectory path := do return (← get).isDirectory path
  write path bytes := change (·.write path bytes)
  print text := modify fun w => { w with printed := w.printed ++ text }
  report _ := pure ()

end Workspace

end DeviceGen.Offline
