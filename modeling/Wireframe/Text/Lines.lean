/-!
The lines of a text.
-/

namespace Wireframe.Text

/--
A line ends at a line feed, which takes one carriage return right before it along; a text
that ends with a line feed has no empty line after it.
-/
def lines : List Char → List (List Char)
  | [] => []
  | c :: text =>
      if c = '\n' then
        [] :: lines text
      else if c = '\r' ∧ text.head? = some '\n' then
        lines text
      else
        match lines text with
        | [] => [[c]]
        | line :: others => (c :: line) :: others

@[simp] theorem lines_lineFeed (text : List Char) :
    lines ('\n' :: text) = [] :: lines text := by
  simp [lines]

@[simp] theorem lines_carriageReturn (text : List Char) :
    lines ('\r' :: '\n' :: text) = [] :: lines text := by
  simp [lines]

end Wireframe.Text
