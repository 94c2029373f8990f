/-!
# Reserved words

The thirteen spellings that are never names. Keywords are told apart by exact spelling, so upper
case letters make a name.
-/

namespace Sierra

set_option autoImplicit false

inductive Keyword where
  | use
  | program
  | type
  | implementation
  | function
  | beginBlock
  | endBlock
  | publicAccess
  | privateAccess
  | const
  | mutable
  | self
  | of
  deriving DecidableEq, Repr

namespace Keyword

def all : List Keyword :=
  [.use, .program, .type, .implementation, .function, .beginBlock, .endBlock, .publicAccess,
    .privateAccess, .const, .mutable, .self, .of]

def spelling : Keyword → String
  | use => "use"
  | program => "program"
  | type => "type"
  | implementation => "implementation"
  | function => "function"
  | beginBlock => "begin"
  | endBlock => "end"
  | publicAccess => "public"
  | privateAccess => "private"
  | const => "const"
  | mutable => "mutable"
  | self => "self"
  | of => "of"

def tag : Keyword → String
  | use => "Use"
  | program => "Program"
  | type => "Type"
  | implementation => "Implementation"
  | function => "Function"
  | beginBlock => "Begin"
  | endBlock => "End"
  | publicAccess => "Public"
  | privateAccess => "Private"
  | const => "Const"
  | mutable => "Mutable"
  | self => "SelfKw"
  | of => "Of"

def ofSpelling? (word : String) : Option Keyword :=
  all.find? (fun keyword => keyword.spelling == word)

theorem mem_all (keyword : Keyword) : keyword ∈ all := by
  cases keyword <;> decide

theorem of_spelling_spelling (keyword : Keyword) :
    ofSpelling? keyword.spelling = some keyword := by
  cases keyword <;> decide

theorem spelling_of_found {word : String} {keyword : Keyword}
    (found : ofSpelling? word = some keyword) : keyword.spelling = word := by
  simpa using List.find?_some found

end Keyword

end Sierra
