import Sierra.Location

/-!
# Expressions

An expression is a number, a name, an array type or a range. Ranges associate to the left, so a long
one is a chain: an innermost left operand and a list of links, each a right operand with the
location of its range. Every function here walks a chain by a loop and recurs only into the right
operands, so that the length of a chain costs no stack. `chain` and `ofChain` are inverse to each
other, `rebuild` changes nothing, and `equal` decides equality.
-/

namespace Sierra

set_option autoImplicit false

structure Identifier where
  name : String
  location : Location
  deriving DecidableEq, Repr

def Identifier.copy (identifier : Identifier) : Identifier :=
  ⟨identifier.name, identifier.location⟩

inductive Expression where
  | number (text : String) (location : Location)
  | identifier (identifier : Identifier)
  | range (left right : Expression) (location : Location)
  | arrayType (base index element : Identifier) (location : Location)
  deriving Repr

namespace Expression

def location : Expression → Location
  | number _ location => location
  | identifier name => name.location
  | range _ _ location => location
  | arrayType _ _ _ location => location

/-- The digits of a number without the underscores that group them. -/
def digits? : Expression → Option String
  | number text _ => some (String.ofList (text.toList.filter (· != '_')))
  | _ => none

/-- One range of a chain, without its left operand. -/
structure Link where
  right : Expression
  location : Location
  deriving Repr

/-- Puts links onto an expression, the first one innermost. -/
def extend (head : Expression) (links : List Link) : Expression :=
  links.foldl (fun left link => range left link.right link.location) head

/-- The innermost left operand and the links around it, innermost first. -/
def chainWithin (outer : List Link) : Expression → Expression × List Link
  | range left right location => chainWithin (⟨right, location⟩ :: outer) left
  | head => (head, outer)

def chain (expression : Expression) : Expression × List Link :=
  chainWithin [] expression

def ofChain (chain : Expression × List Link) : Expression :=
  chain.1.extend chain.2

theorem extend_chain_within (expression : Expression) (outer : List Link) :
    ofChain (chainWithin outer expression) = expression.extend outer := by
  induction expression generalizing outer with
  | range left right location left_ih right_ih =>
      rw [chainWithin, left_ih]
      rfl
  | _ => rfl

theorem of_chain_chain (expression : Expression) : ofChain expression.chain = expression :=
  extend_chain_within expression []

/-- Takes every chain apart, those of the right operands as well, and puts it together again. -/
def rebuildWithin (outer : List Link) : Expression → Expression
  | range left right location =>
      rebuildWithin (⟨rebuildWithin [] right, location⟩ :: outer) left
  | number text location => (number text location).extend outer
  | identifier name => (identifier name.copy).extend outer
  | arrayType base index element location =>
      (arrayType base.copy index.copy element.copy location).extend outer

def rebuild (expression : Expression) : Expression :=
  rebuildWithin [] expression

theorem rebuild_within_eq (expression : Expression) (outer : List Link) :
    rebuildWithin outer expression = expression.extend outer := by
  induction expression generalizing outer with
  | range left right location left_ih right_ih =>
      rw [rebuildWithin, left_ih, right_ih]
      rfl
  | _ => rfl

theorem rebuild_eq (expression : Expression) : expression.rebuild = expression :=
  rebuild_within_eq expression []

/-- The location and the right operand of each range are compared before its left operand, which is
compared last. -/
def equal : Expression → Expression → Bool
  | number text location, number text' location' => text == text' && location == location'
  | identifier name, identifier name' => name == name'
  | range left right location, range left' right' location' =>
      location == location' && equal right right' && equal left left'
  | arrayType base index element location, arrayType base' index' element' location' =>
      base == base' && index == index' && element == element' && location == location'
  | _, _ => false

theorem equal_iff (first second : Expression) : first.equal second = true ↔ first = second := by
  induction first generalizing second with
  | range left right location left_ih right_ih =>
      cases second with
      | range left' right' location' =>
          simp only [equal, Bool.and_eq_true, beq_iff_eq, left_ih, right_ih, range.injEq]
          constructor
          · rintro ⟨⟨sameLocation, sameRight⟩, sameLeft⟩
            exact ⟨sameLeft, sameRight, sameLocation⟩
          · rintro ⟨sameLeft, sameRight, sameLocation⟩
            exact ⟨⟨sameLocation, sameRight⟩, sameLeft⟩
      | _ => simp [equal]
  | _ => cases second <;> simp [equal, and_assoc]

instance : DecidableEq Expression := fun first second =>
  decidable_of_iff (first.equal second = true) (equal_iff first second)

end Expression

end Sierra
