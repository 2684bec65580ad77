/-!
# Lines

A text of several lines, with a line feed between each two of them.
-/

namespace SyncLayer.Text

/-- The lines with a line feed between each two of them. -/
def joinLines : List String → String
  | [] => ""
  | [line] => line
  | line :: lines => line ++ "\n" ++ joinLines lines

end SyncLayer.Text
