/-
Making a directory together with those on the way to it.

The whole path is tried first.  Only if something on the way is missing, the way is made
and the path tried again; so what goes wrong is what the first path says that is not
merely missing something.  A directory that is there already is as good as a new one.
-/
import DeviceGen.Offline.FileSystem

namespace DeviceGen.Offline

variable {m : Type → Type} [Monad m]

/-- What making a directory comes to: a fault does not matter if there is one after all. -/
def settle (fs : FileSystem m) (path : String) : Except Fault Unit → m (Except Fault Unit)
  | .ok () => return .ok ()
  | .error fault => do
    if ← fs.isDirectory path then return .ok () else return .error fault

/-- Makes the directory at the first of some paths; if something on the way is missing, the
others lead to it, the last directory first. -/
def makeAlong (fs : FileSystem m) : List String → m (Except Fault Unit)
  | [] => return .ok ()
  | path :: ways => do
    match ← fs.makeDirectory path with
    | .error (.system .notFound) =>
      match ← makeAlong fs ways with
      | .error fault => return .error fault
      | .ok () => settle fs path (← fs.makeDirectory path)
    | result => settle fs path result

/-- Makes the directory that a path leads to and those on the way. -/
def makeDirectories (fs : FileSystem m) (path : String) : m (Except Fault Unit) :=
  makeAlong fs (path :: (Path.ofString path).ways)

end DeviceGen.Offline
