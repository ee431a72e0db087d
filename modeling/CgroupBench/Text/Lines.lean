/-!
# Lines

A newline ends a line, and so does a carriage return right before it. What follows the
last newline is a line of its own unless it is empty, and keeps a carriage return.
-/
namespace CgroupBench.Text

def stripReturn (line : List Char) : List Char :=
  if line.getLast? = some '\r' then line.dropLast else line

/-- The lines of a text that was cut at its newlines. -/
def closeLines : List (List Char) → List (List Char)
  | [] => []
  | [last] => if last = [] then [] else [last]
  | line :: rest => stripReturn line :: closeLines rest

def lines (text : String) : List String :=
  (closeLines (text.toList.splitOn '\n')).map .ofList

end CgroupBench.Text
