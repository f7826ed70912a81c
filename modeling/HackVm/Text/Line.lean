import HackVm.Text.Blank

/-!
# Lines and comments

A text is cut into lines at line feeds. A carriage return right before a line
feed belongs to the line end, and a text that ends in a line feed has no further
empty line. A comment starts at the first double slash and runs to the line's end.
-/

namespace HackVm.Text

/-- Drop one carriage return at the end of a line. -/
def dropReturn (line : List Char) : List Char :=
  if line.getLast? = some '\r' then line.dropLast else line

/-- The lines of a text, without their line ends. -/
def lines (text : List Char) : List (List Char) :=
  let pieces := text.splitOn '\n'
  let closed := pieces.dropLast.map dropReturn
  match pieces.getLast? with
  | none | some [] => closed
  | some last => closed ++ [last]

/-- The part of a line before its comment. -/
def beforeComment : List Char → List Char
  | [] => []
  | '/' :: '/' :: _ => []
  | char :: rest => char :: beforeComment rest

/-- What a line says: the part before its comment, trimmed. -/
def content (line : List Char) : List Char := trim (beforeComment line)

end HackVm.Text
