import Sierra.Diagnostic.Styled
import Sierra.Error
import Sierra.Text.Lines
import Sierra.Text.Padding

/-!
# Diagnostics

A diagnostic shows an error to a reader: a heading, an arrow with the location and, when the source
is at hand and has the line, an excerpt. The excerpt is the line with its neighbours, numbered in a
column of one width, and a caret row below the line.
-/

namespace Sierra

set_option autoImplicit false

structure Diagnostic where
  error : Error
  source : Option String
  deriving DecidableEq, Repr

namespace Diagnostic

def heading (fault : Fault) : Row :=
  [⟨.alarm, fault.category⟩, ⟨.plain, ": " ++ fault.message⟩,
    ⟨.plain, match fault.rule? with
      | some rule => " (while parsing " ++ rule.name ++ ")"
      | none => ""⟩]

def arrow (location : Location) : Row :=
  [⟨.plain, "  "⟩, ⟨.pointer, "-->"⟩, ⟨.plain, " " ++ location.text⟩]

/-- The width of the numbers in an excerpt: that of the largest it can show. -/
def numberWidth (line : Nat) : Nat :=
  (toString (line + 1)).length

def numbered (style : Style) (width line : Nat) (text : List Char) : Row :=
  [⟨.plain, "  "⟩, ⟨style, Text.alignRight width (toString line)⟩,
    ⟨.plain, " " ++ String.ofList text⟩]

def caret (width column : Nat) : Row :=
  [⟨.plain, Text.spaces (width + 2 + (column - 1))⟩, ⟨.alarm, "^"⟩]

def neighbour (lines : List (List Char)) (width line : Nat) : List Row :=
  match Text.lineAt lines line with
  | some text => [numbered .number width line text]
  | none => []

/-- The line of a location with its neighbours; nothing when the source has no such line. -/
def excerpt (lines : List (List Char)) (location : Location) : List Row :=
  match Text.lineAt lines location.line with
  | none => []
  | some text =>
    let width := numberWidth location.line
    neighbour lines width (location.line - 1) ++
      [numbered .pointer width location.line text, caret width location.column] ++
      neighbour lines width (location.line + 1)

def rows (diagnostic : Diagnostic) : List Row :=
  let location := diagnostic.error.location
  [heading diagnostic.error.fault, arrow location] ++
    match diagnostic.source with
    | some source => excerpt (Text.lines source.toList) location
    | none => []

def paint (painter : Painter) (coloured : Bool) (diagnostic : Diagnostic) : String :=
  String.join (diagnostic.rows.map (·.paint painter coloured))

abbrev render (coloured : Bool) (diagnostic : Diagnostic) : String :=
  diagnostic.paint ansi coloured

end Diagnostic

end Sierra
