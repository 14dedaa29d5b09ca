/-
Names in other conventions.

Schemas name fields in lower case with underscores and messages in mixed case.  The
objects of a web client have mixed-case keys, and macros are in upper case; both are
computed from the names alone, one pass over the characters with a look at the
neighbours.
-/
import DeviceGen.Text.Letter

namespace DeviceGen.Text

/-- An ASCII lowercase letter. -/
def isPlainLower (c : Char) : Bool := c.isLower

/-- Whether an underscore before these characters gives way to a capital: a lowercase
letter follows, and after it another one or nothing. -/
def folds : List Char → Bool
  | next :: after :: _ => isPlainLower next && isPlainLower after
  | [next] => isPlainLower next
  | [] => false

/-- Mixed case for what follows the first character. -/
def camelRest : List Char → List Char
  | [] => []
  | '_' :: next :: rest =>
    if folds (next :: rest) then next.toUpper :: camelRest rest
    else '_' :: camelRest (next :: rest)
  | c :: rest => c :: camelRest rest

/-- Mixed case: an underscore that is not the first character and that stands before a
lowercase letter gives way to the capital of that letter, unless the letter is followed
by something other than a lowercase letter. -/
def camelChars : List Char → List Char
  | [] => []
  | c :: rest => c :: camelRest rest

/-- A name in mixed case. -/
def camelCase (name : String) : String := String.ofList (camelChars name.toList)

/-- Whether a new word begins at `c`, between its neighbours: an uppercase letter after
anything but an uppercase letter or an underscore, or the last of several uppercase
letters, which a lowercase letter follows. -/
def beginsWord (previous c : Char) (rest : List Char) : Bool :=
  Letter.isUpper c
    && if Letter.isUpper previous then rest.head?.any Letter.isLower else previous != '_'

/-- Upper case for what follows the character `previous`. -/
def upperSnakeAfter (previous : Char) : List Char → List Char
  | [] => []
  | c :: rest =>
    (if beginsWord previous c rest then ['_'] else [])
      ++ Letter.capital c ++ upperSnakeAfter c rest

/-- Upper case with an underscore where a new word begins. -/
def upperSnakeChars : List Char → List Char
  | [] => []
  | c :: rest => Letter.capital c ++ upperSnakeAfter c rest

/-- A name in upper case with underscores between its words. -/
def upperSnake (name : String) : String := String.ofList (upperSnakeChars name.toList)

end DeviceGen.Text
