/-!
# Positions in a source text

A location names one point between two characters of a text: its line and column, counted from one
in characters, its byte offset in UTF-8, counted from zero, and the file it belongs to if there is
one. Reading a character moves a location by `step`, and `after` moves it over a whole text. A part
of a line that was read last began `back` by as many columns as it has characters.
-/

namespace Sierra

set_option autoImplicit false

structure Location where
  line : Nat
  column : Nat
  offset : Nat
  file : Option String
  deriving DecidableEq, Repr

namespace Location

def start (file : Option String) : Location :=
  ⟨1, 1, 0, file⟩

/-- The location behind the character `c`; only a line feed begins a new line. -/
def step (here : Location) (c : Char) : Location :=
  if c = '\n' then
    { here with line := here.line + 1, column := 1, offset := here.offset + c.utf8Size }
  else
    { here with column := here.column + 1, offset := here.offset + c.utf8Size }

def after (here : Location) (text : List Char) : Location :=
  text.foldl step here

@[simp] theorem after_nil (here : Location) : here.after [] = here := rfl

@[simp] theorem after_cons (here : Location) (c : Char) (text : List Char) :
    here.after (c :: text) = (here.step c).after text := rfl

theorem after_append (here : Location) (front back : List Char) :
    here.after (front ++ back) = (here.after front).after back := by
  simp [after]

/-- Where the last `width` characters of the line begin, given the byte they begin at. -/
def back (here : Location) (width offset : Nat) : Location :=
  { here with column := here.column - width, offset := offset }

def lineColumn (here : Location) : String :=
  toString here.line ++ ":" ++ toString here.column

/-- A location with a file puts the file's name in front, even an empty one. -/
def text (here : Location) : String :=
  match here.file with
  | some file => file ++ ":" ++ here.lineColumn
  | none => here.lineColumn

end Location

end Sierra
