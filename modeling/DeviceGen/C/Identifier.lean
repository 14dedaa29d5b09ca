/-
Names in C.

Names of a schema become members, types, macros and include guards.  A member that would
be a reserved word gets an underscore at its end; characters that no macro name can hold
become underscores.
-/
import DeviceGen.Text.Case

namespace DeviceGen.C

/-- The reserved words that a field of a schema may happen to be named. -/
def reservedWords : List String := [
  "auto", "bool", "break", "case", "char", "const", "continue", "default", "do", "double",
  "else", "enum", "extern", "false", "float", "for", "goto", "if", "inline", "int", "long",
  "register", "restrict", "return", "short", "signed", "sizeof", "static", "struct",
  "switch", "true", "typedef", "union", "unsigned", "void", "volatile", "while"]

/-- The member for a field. -/
def memberName (field : String) : String :=
  if reservedWords.contains field then field ++ "_" else field

/-- A letter in upper case, a digit as it is, and an underscore for anything else. -/
def guardChar (c : Char) : Char := if c.isAlphanum then c.toUpper else '_'

/-- A macro name made of any text, character by character. -/
def guardName (text : String) : String := String.ofList (text.toList.map guardChar)

/-- The full name of an enumeration with underscores for dots, without leading ones. -/
def enumBase (enumName : String) : String :=
  String.ofList ((enumName.toList.dropWhile (· = '.')).map fun c => if c = '.' then '_' else c)

/-- The type of an enumeration. -/
def enumType (enumName : String) : String := enumBase enumName ++ "_t"

/-- The macro that says that an enumeration is declared. -/
def enumGuard (enumName : String) : String := guardName (enumBase enumName) ++ "_DEFINED"

/-- The macro for the size of a packed message. -/
def sizeMacro (message : String) : String := Text.upperSnake message ++ "_PACKED_SIZE"

end DeviceGen.C
