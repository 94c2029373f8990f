import Sierra.Token

/-!
# The alphabet

The characters that a source text may hold: ASCII blanks, letters, digits, the underscore, and the
characters that marks are made of. Each class is what one place of a token may hold.
-/

namespace Sierra.Alphabet

set_option autoImplicit false

/-- Space, tab, line feed, form feed and carriage return; a vertical tab is none of them. -/
def isBlank (c : Char) : Bool :=
  c == ' ' || c == '\t' || c == '\n' || c == '\x0c' || c == '\r'

def beginsNumber (c : Char) : Bool :=
  c.isDigit

def continuesNumber (c : Char) : Bool :=
  c.isDigit || c == '_'

def beginsWord (c : Char) : Bool :=
  c.isAlpha || c == '_'

def continuesWord (c : Char) : Bool :=
  c.isAlphanum || c == '_'

/-- The mark that begins with `c`, taking in the character behind it where that makes a mark. -/
def mark? (c : Char) (next : Option Char) : Option Mark :=
  match c with
  | '(' => some .leftParen
  | ')' => some .rightParen
  | '[' => some .leftBracket
  | ']' => some .rightBracket
  | ',' => some .comma
  | ';' => some .semicolon
  | '=' => some .equals
  | '.' => some (if next = some '.' then .dotDot else .dot)
  | ':' => some (if next = some '=' then .colonEquals else .colon)
  | _ => none

end Sierra.Alphabet
