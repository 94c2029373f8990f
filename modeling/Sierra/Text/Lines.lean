/-!
# The lines of a text

A line feed ends a line, and a carriage return directly in front of it belongs to the line's end and
not to the line. Text behind the last line feed is a line too, even if it is empty, so that the end
of a text always lies on one of its lines. Only the empty text has no line.
-/

namespace Sierra.Text

set_option autoImplicit false

/-- A line without the carriage return of its end. -/
def dropReturn (line : List Char) : List Char :=
  if line.getLast? = some '\r' then line.dropLast else line

def lines (text : List Char) : List (List Char) :=
  if text.isEmpty then
    []
  else
    let pieces := text.splitOn '\n'
    pieces.dropLast.map dropReturn ++ pieces.getLast?.toList

/-- The line with the given number, counted from one. -/
def lineAt (lines : List (List Char)) : Nat → Option (List Char)
  | 0 => none
  | before + 1 => lines[before]?

end Sierra.Text
