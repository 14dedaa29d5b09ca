/-
Parts of dotted names and of paths.

Names and paths are cut at their last separator or lose a known ending; nothing is
looked up anywhere.
-/

namespace DeviceGen.Text

/-- What follows the last `separator`, or everything if there is none. -/
def charsAfterLast (separator : Char) (cs : List Char) : List Char :=
  (cs.reverse.takeWhile (· ≠ separator)).reverse

/-- What follows the last `separator` in a text, or all of it if there is none. -/
def afterLast (separator : Char) (text : String) : String :=
  String.ofList (charsAfterLast separator text.toList)

/-- What stands before a known ending, or everything if it ends differently. -/
def charsBeforeEnding (ending cs : List Char) : List Char :=
  if ending.isSuffixOf cs then cs.take (cs.length - ending.length) else cs

/-- A text without a known ending. -/
def beforeEnding (ending text : String) : String :=
  String.ofList (charsBeforeEnding ending.toList text.toList)

/-- Whether a text ends in a known ending. -/
def hasEnding (ending text : String) : Bool := ending.toList.isSuffixOf text.toList

end DeviceGen.Text
