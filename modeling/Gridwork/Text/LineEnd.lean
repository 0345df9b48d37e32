/-!
# Line ends

Lines of a text file may end in a line feed, a carriage return or both. `unifyLineEnds` puts a line
feed for each of them, so a reader of the text knows only one line end.
-/

namespace Gridwork.Text

/-- A text with a line feed for every line end. -/
def unifyLineEnds : List Char → List Char
  | '\r' :: '\n' :: rest => '\n' :: unifyLineEnds rest
  | '\r' :: rest => '\n' :: unifyLineEnds rest
  | c :: rest => c :: unifyLineEnds rest
  | [] => []

example : unifyLineEnds "a\r\nb\rc\n".toList = "a\nb\nc\n".toList := by decide

end Gridwork.Text
