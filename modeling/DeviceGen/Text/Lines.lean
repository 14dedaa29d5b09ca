/-
Texts made of lines.
-/

namespace DeviceGen.Text

/-- Lines, each with an end of line. -/
def unlines (lines : List String) : String := String.join (lines.map (· ++ "\n"))

/-- A text between braces. -/
def braced (text : String) : String := "\x7b" ++ text ++ "\x7d"

end DeviceGen.Text
