/-! # Aligned text

A text that is shorter than a column is filled up with spaces; a longer one is left as it is.

* `Text.rightAligned` — filled up on the left.
* `Text.leftAligned` — filled up on the right. -/

namespace StackLang.Text

/-- A text filled up with spaces on its left. -/
def rightAligned (width : Nat) (text : String) : String :=
  String.ofList (text.toList.leftpad width ' ')

/-- A text filled up with spaces on its right. -/
def leftAligned (width : Nat) (text : String) : String :=
  String.ofList (text.toList.rightpad width ' ')

end StackLang.Text
