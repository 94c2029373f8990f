import Sierra.Keyword
import Sierra.Location

/-!
# Tokens

A token is a kind, the characters it was written with, and the location of the first of them.
Punctuation marks and keywords have one spelling each; names and numbers do not. Three texts name a
kind: its `tag` in the table of tokens, its `label` in messages, and for a token its `describe`,
which quotes the spelling of names and numbers.
-/

namespace Sierra

set_option autoImplicit false

inductive Mark where
  | leftParen
  | rightParen
  | leftBracket
  | rightBracket
  | comma
  | dot
  | dotDot
  | colon
  | colonEquals
  | equals
  | semicolon
  deriving DecidableEq, Repr

namespace Mark

def all : List Mark :=
  [.leftParen, .rightParen, .leftBracket, .rightBracket, .comma, .dot, .dotDot, .colon,
    .colonEquals, .equals, .semicolon]

def spelling : Mark → String
  | leftParen => "("
  | rightParen => ")"
  | leftBracket => "["
  | rightBracket => "]"
  | comma => ","
  | dot => "."
  | dotDot => ".."
  | colon => ":"
  | colonEquals => ":="
  | equals => "="
  | semicolon => ";"

def tag : Mark → String
  | leftParen => "LeftParen"
  | rightParen => "RightParen"
  | leftBracket => "LeftBracket"
  | rightBracket => "RightBracket"
  | comma => "Comma"
  | dot => "Dot"
  | dotDot => "DotDot"
  | colon => "Colon"
  | colonEquals => "ColonAssign"
  | equals => "Equals"
  | semicolon => "Semicolon"

theorem mem_all (mark : Mark) : mark ∈ all := by
  cases mark <;> decide

end Mark

inductive Token.Kind where
  | number
  | identifier
  | keyword (word : Keyword)
  | punctuation (mark : Mark)
  | endOfInput
  deriving DecidableEq, Repr

namespace Token.Kind

/-- Every kind once, keywords and marks in the order of their own lists. -/
def all : List Token.Kind :=
  [.number, .identifier, .endOfInput] ++ Keyword.all.map .keyword ++ Mark.all.map .punctuation

def tag : Token.Kind → String
  | number => "Number"
  | identifier => "Identifier"
  | keyword word => "Keyword(" ++ word.tag ++ ")"
  | punctuation mark => mark.tag
  | endOfInput => "Eof"

def ofTag? (word : String) : Option Token.Kind :=
  all.find? (fun kind => kind.tag == word)

def label : Token.Kind → String
  | number => "number"
  | identifier => "identifier"
  | keyword word => "keyword '" ++ word.spelling ++ "'"
  | punctuation mark => "'" ++ mark.spelling ++ "'"
  | endOfInput => "EOF"

/-- The tokens that end what an earlier token began. -/
def closes : Token.Kind → Bool
  | punctuation .rightParen | punctuation .rightBracket | punctuation .semicolon => true
  | keyword .endBlock | keyword .self => true
  | _ => false

theorem mem_all (kind : Token.Kind) : kind ∈ all := by
  cases kind with
  | keyword word => simp [all, Keyword.mem_all]
  | punctuation mark => simp [all, Mark.mem_all]
  | _ => simp [all]

end Token.Kind

structure Token where
  kind : Token.Kind
  lexeme : String
  location : Location
  deriving DecidableEq, Repr

namespace Token

/-- The token that every finished list of tokens closes with. -/
def endOfInput (location : Location) : Token :=
  ⟨.endOfInput, "", location⟩

def describe (token : Token) : String :=
  match token.kind with
  | .identifier => "identifier '" ++ token.lexeme ++ "'"
  | .number => "number '" ++ token.lexeme ++ "'"
  | .endOfInput => "end of input"
  | kind => kind.label

end Token

end Sierra
