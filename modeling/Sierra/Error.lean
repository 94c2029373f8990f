import Sierra.Grammar.Rule
import Sierra.Location
import Sierra.Text.Escape

/-!
# Errors

An error is one fault at one place. A fault is a character outside the alphabet, a token that does
not fit, a text that stops or lacks a closing token, or a parameter of a form the grammar does not
have. The wording of the last three is chosen where they are found; that of the first is fixed here.
-/

namespace Sierra

set_option autoImplicit false

inductive Fault where
  | strayCharacter (character : Char)
  | misplaced (message : String) (rule : Rule)
  | incomplete (message : String) (rule : Rule)
  | invalidParameter (message : String)
  deriving DecidableEq, Repr

structure Error where
  fault : Fault
  location : Location
  deriving DecidableEq, Repr

namespace Fault

def category : Fault → String
  | strayCharacter _ => "Lex Error"
  | misplaced _ _ => "Syntax Error"
  | incomplete _ _ => "Structural Error"
  | invalidParameter _ => "Invalid Parameter"

def message : Fault → String
  | strayCharacter character => "Unexpected character '" ++ Text.escape character ++ "'"
  | misplaced message _ => message
  | incomplete message _ => message
  | invalidParameter message => message

/-- The rule that was being read; reading characters follows none. -/
def rule? : Fault → Option Rule
  | strayCharacter _ => none
  | misplaced _ rule => some rule
  | incomplete _ rule => some rule
  | invalidParameter _ => some .parameter

def character? : Fault → Option Char
  | strayCharacter character => some character
  | _ => none

/-- Where a one-line text names the rule; an invalid parameter says it in its category. -/
def place : Fault → String
  | misplaced _ rule => " in " ++ rule.name
  | incomplete _ rule => " in " ++ rule.name
  | _ => ""

end Fault

def Error.text (error : Error) : String :=
  error.fault.category ++ ": " ++ error.fault.message ++ error.fault.place ++
    " at " ++ error.location.text

end Sierra
