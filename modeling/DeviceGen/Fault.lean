/-
What can go wrong outside the program.

The faults of a file system that matter here are values with the number, the name and
the wording the system gives them; anything else is only known by its message.
-/

namespace DeviceGen

/-- Why a file system refuses. -/
inductive SystemFault where
  | notFound
  | notPermitted
  | alreadyExists
  | notDirectory
  | isDirectory
  | nameTooLong
  deriving DecidableEq, Repr

namespace SystemFault

/-- The number of a fault. -/
def code : SystemFault → Nat
  | notFound => 2
  | notPermitted => 13
  | alreadyExists => 17
  | notDirectory => 20
  | isDirectory => 21
  | nameTooLong => 36

/-- The fault with a number. -/
def ofCode? (code : Nat) : Option SystemFault :=
  [notFound, notPermitted, alreadyExists, notDirectory, isDirectory, nameTooLong].find?
    (·.code = code)

/-- The name of a fault. -/
def name : SystemFault → String
  | notFound => "NotFound"
  | notPermitted => "PermissionDenied"
  | alreadyExists => "AlreadyExists"
  | notDirectory => "NotADirectory"
  | isDirectory => "IsADirectory"
  | nameTooLong => "InvalidFilename"

/-- The wording of a fault. -/
def text : SystemFault → String
  | notFound => "No such file or directory"
  | notPermitted => "Permission denied"
  | alreadyExists => "File exists"
  | notDirectory => "Not a directory"
  | isDirectory => "Is a directory"
  | nameTooLong => "File name too long"

end SystemFault

/-- Why something outside the program failed. -/
inductive Fault where
  | system (fault : SystemFault)
  /-- A name that no file can have, because it holds the character with the number 0. -/
  | nulInName
  | custom (message : String)
  deriving DecidableEq, Repr

/-- The wording of a fault. -/
def Fault.text : Fault → String
  | system fault => fault.text ++ " (os error " ++ toString fault.code ++ ")"
  | nulInName => "file name contained an unexpected NUL byte"
  | custom message => message

end DeviceGen
