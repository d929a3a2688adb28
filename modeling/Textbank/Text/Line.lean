/-!
# Lines

A line ends at a line feed, which takes one carriage return before it along; the last line needs
no end of its own.
-/

namespace Textbank

/-- The lines of a text, without their ends. -/
def lines : List Char → List (List Char)
  | [] => []
  | '\n' :: cs => [] :: lines cs
  | '\r' :: '\n' :: cs => [] :: lines cs
  | c :: cs =>
    match lines cs with
    | [] => [[c]]
    | l :: ls => (c :: l) :: ls

end Textbank
