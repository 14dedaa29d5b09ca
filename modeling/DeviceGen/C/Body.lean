/-
Function bodies between a structure and a buffer.

Generated functions copy members of a structure to fixed places in a byte buffer, or
back.  Their bodies need very little of C, and that little is a type here: what is
printed is a value that can be looked into.  Helper functions, one pair for each kind of
word, put a word at a place of the buffer and get it back.
-/
import DeviceGen.C.Identifier

namespace DeviceGen.C

/-- The types of members. -/
inductive CType where
  | int32
  | int64
  | uint32
  | uint64
  | float
  | double
  | bool
  | enumeration (enumName : String)
  deriving DecidableEq, Repr

/-- The name of a type. -/
def CType.text : CType → String
  | int32 => "int32_t"
  | int64 => "int64_t"
  | uint32 => "uint32_t"
  | uint64 => "uint64_t"
  | float => "float"
  | double => "double"
  | bool => "bool"
  | enumeration enumName => enumType enumName

/-- What the helper functions put and get: unsigned integers, and real numbers by
their bits. -/
inductive Word where
  | u32
  | u64
  | f32
  | f64
  deriving DecidableEq, Repr

/-- The ending of the names of the helpers for a word. -/
def Word.text : Word → String
  | u32 => "u32"
  | u64 => "u64"
  | f32 => "f32"
  | f64 => "f64"

/-- Expressions over the structure that `msg` points to and the buffer `buf`. -/
inductive Expr where
  /-- A member of the structure. -/
  | member (name : String)
  /-- A byte of the buffer. -/
  | byte (offset : Nat)
  /-- A word of the buffer. -/
  | get (word : Word) (offset : Nat)
  | cast (type : CType) (e : Expr)
  /-- One if true, else zero. -/
  | oneIf (e : Expr)
  /-- Whether a byte is other than zero. -/
  | nonzero (e : Expr)
  deriving DecidableEq, Repr

/-- Statements that copy between the structure and the buffer. -/
inductive Stmt where
  /-- Puts a word into the buffer. -/
  | put (word : Word) (offset : Nat) (value : Expr)
  /-- Sets a byte of the buffer. -/
  | setByte (offset : Nat) (value : Expr)
  /-- Sets a member of the structure. -/
  | setMember (name : String) (value : Expr)
  deriving DecidableEq, Repr

/-- The byte of the buffer at a place. -/
def byteText (offset : Nat) : String := "buf[" ++ toString offset ++ "]"

/-- The member of the structure with a name. -/
def memberText (name : String) : String := "msg->" ++ name

/-- The text of an expression. -/
def Expr.text : Expr → String
  | member name => memberText name
  | byte offset => byteText offset
  | get word offset => "get_" ++ word.text ++ "(&" ++ byteText offset ++ ")"
  | cast type e => "(" ++ type.text ++ ")" ++ e.text
  | oneIf e => e.text ++ " ? 1u : 0u"
  | nonzero e => e.text ++ " != 0u"

/-- The text of a statement. -/
def Stmt.text : Stmt → String
  | put word offset value =>
      "put_" ++ word.text ++ "(&" ++ byteText offset ++ ", " ++ value.text ++ ");"
  | setByte offset value => byteText offset ++ " = " ++ value.text ++ ";"
  | setMember name value => memberText name ++ " = " ++ value.text ++ ";"

/-- The two directions of copying. -/
inductive Direction where
  /-- From the structure to the buffer. -/
  | pack
  /-- From the buffer to the structure. -/
  | unpack
  deriving DecidableEq, Repr

/-- A function that copies the members of a message's structure. -/
structure Routine where
  direction : Direction
  message : String
  body : List Stmt
  deriving DecidableEq, Repr

namespace Routine

/-- The head of a function: only what is written to is not constant. -/
def head (direction : Direction) (message : String) : String :=
  match direction with
  | .pack => "int pack_" ++ message ++ "(const " ++ message ++ "_t *msg, uint8_t *buf, size_t len)"
  | .unpack =>
      "int unpack_" ++ message ++ "(" ++ message ++ "_t *msg, const uint8_t *buf, size_t len)"

/-- The lines of a function: nothing is copied if the buffer is too short, and else the
number of bytes is returned. -/
def lines (routine : Routine) : List String :=
  let size := sizeMacro routine.message
  [head routine.direction routine.message ++ " \x7b",
    "  if (len < " ++ size ++ ") \x7b",
    "    return -1;",
    "  \x7d"]
    ++ routine.body.map (fun s => "  " ++ s.text)
    ++ ["  return (int)" ++ size ++ ";", "\x7d"]

end Routine

end DeviceGen.C
