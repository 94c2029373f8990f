import Sierra.Token.Alphabet

/-!
# What a text begins with

The first character decides whether a text begins with a blank, a token or a character that belongs
to neither. A number or a word reaches as far as its characters do, and a mark is the longest one
that fits, so a token always takes the most it can.
-/

namespace Sierra

set_option autoImplicit false

/-- A word is a keyword when it is spelled like one, and a name otherwise. -/
def Token.Kind.ofWord (word : String) : Token.Kind :=
  match Keyword.ofSpelling? word with
  | some reserved => .keyword reserved
  | none => .identifier

inductive Front where
  | blank
  | token (kind : Token.Kind) (tail : List Char)
  | stray
  deriving DecidableEq, Repr

/-- What `c :: rest` begins with; the tail of a token is what it holds behind `c`. -/
def Front.ofText (c : Char) (rest : List Char) : Front :=
  if Alphabet.isBlank c then
    .blank
  else if Alphabet.beginsNumber c then
    .token .number (rest.takeWhile Alphabet.continuesNumber)
  else if Alphabet.beginsWord c then
    let tail := rest.takeWhile Alphabet.continuesWord
    .token (Token.Kind.ofWord (String.ofList (c :: tail))) tail
  else
    match Alphabet.mark? c rest.head? with
    | some mark => .token (.punctuation mark) mark.spelling.toList.tail
    | none => .stray

end Sierra
