/-
Paths of files.

A path is a text with slashes.  What it leads to is decided by its parts; what is
printed is the text.
-/
import DeviceGen.Text.Blank

namespace DeviceGen.Offline

/-- The way a path text describes. -/
structure Path where
  /-- The way starts at the root. -/
  absolute : Bool
  /-- The parts between the slashes that are not empty. -/
  parts : List String
  /-- The way ends in a slash, so it can only lead to a directory. -/
  directory : Bool
  deriving DecidableEq, Repr

namespace Path

/-- The way that a text describes. -/
def ofString (text : String) : Path where
  absolute := text.toList.head? = some '/'
  parts := ((Text.pieces '/' text.toList).filter (!·.isEmpty)).map String.ofList
  directory := text.toList.getLast? = some '/'

/-- The beginnings of a row of parts that end in something other than a dot, the shortest
first; `before` stands before all of them. -/
def stops (before : List String) : List String → List (List String)
  | [] => []
  | part :: parts =>
    let way := before ++ [part]
    if part = "." then stops way parts else way :: stops way parts

/-- The ways to the directories that a path goes through, the last one first.  A dot leads
nowhere new, so the way to a directory does not end in one. -/
def ways (path : Path) : List String :=
  let slash := if path.absolute then "/" else ""
  (stops [] path.parts).dropLast.reverse.map fun parts => slash ++ String.intercalate "/" parts

/-- The text of a path inside a directory; one that starts at the root stays as it is. -/
def join (directory name : String) : String :=
  if name.toList.head? = some '/' then name
  else
    match directory.toList.getLast? with
    | none | some '/' => directory ++ name
    | some _ => directory ++ "/" ++ name

end Path

end DeviceGen.Offline
