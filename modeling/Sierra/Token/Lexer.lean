import Sierra.Error
import Sierra.Token.Front

/-!
# Reading tokens

A lexer is what is left of a text, the location it stands at, and the tokens it has read but not yet
handed out. `tokenize` reads to the end of the text or to the first stray character. A stray
character is passed over, so the next call goes on behind it and hands out what was read before it
as well. What is read gets its location when the lexer stands behind it, from the width it has.
-/

namespace Sierra

set_option autoImplicit false

structure Lexer where
  rest : List Char
  here : Location
  /-- Tokens read and not handed out, the latest first. -/
  held : List Token
  deriving DecidableEq, Repr

namespace Lexer

def ofText (text : String) (file : Option String) : Lexer :=
  ⟨text.toList, Location.start file, []⟩

/-- Reads on from `here`; the first `skip` characters belong to the token read last. -/
def scan (held : List Token) (here : Location) (skip : Nat) :
    List Char → Except Error (List Token) × Lexer
  | [] => (.ok (Token.endOfInput here :: held).reverse, ⟨[], here, []⟩)
  | c :: rest =>
    match skip with
    | skip + 1 => scan held (here.step c) skip rest
    | 0 =>
      match Front.ofText c rest with
      | .blank => scan held (here.step c) 0 rest
      | .token kind tail =>
        let lexeme := c :: tail
        let location := (here.after lexeme).back lexeme.length here.offset
        scan (⟨kind, String.ofList lexeme, location⟩ :: held) (here.step c) tail.length rest
      | .stray =>
        let behind := here.step c
        (.error ⟨.strayCharacter c, behind.back 1 here.offset⟩, ⟨rest, behind, held⟩)

/-- The tokens up to the end of the text, closed by the end of input, or the next stray character;
and the lexer that is left. -/
def tokenize (lexer : Lexer) : Except Error (List Token) × Lexer :=
  scan lexer.held lexer.here 0 lexer.rest

/-- The answers of `times` calls in a row. -/
def tokenizeTimes : Nat → Lexer → List (Except Error (List Token))
  | 0, _ => []
  | times + 1, lexer =>
    let (answer, lexer) := lexer.tokenize
    answer :: tokenizeTimes times lexer

end Lexer

def tokenize (text : String) (file : Option String) : Except Error (List Token) :=
  (Lexer.ofText text file).tokenize.1

end Sierra
