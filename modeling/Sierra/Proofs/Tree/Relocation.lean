import Sierra.Grammar.Expectation
import Sierra.Tree

/-!
# Relocation

Tokens, trees and errors carry locations. Relocating one of them applies a function to each of its
locations and leaves all else as it is: kinds, lexemes, names, faults and the form of a tree.
-/

namespace Sierra

set_option autoImplicit false

variable {α β : Type} (move : Location → Location)

def Token.relocate (token : Token) : Token :=
  { token with location := move token.location }

def Error.relocate (error : Error) : Error :=
  { error with location := move error.location }

def Identifier.relocate (identifier : Identifier) : Identifier :=
  { identifier with location := move identifier.location }

def QualifiedIdentifier.relocate (path : QualifiedIdentifier) : QualifiedIdentifier :=
  ⟨path.segments.map (Identifier.relocate move)⟩

def Expression.relocate : Expression → Expression
  | number text location => number text (move location)
  | identifier name => identifier (name.relocate move)
  | range left right location => range left.relocate right.relocate (move location)
  | arrayType base index element location =>
      arrayType (base.relocate move) (index.relocate move) (element.relocate move) (move location)

def Statement.relocate (statement : Statement) : Statement :=
  ⟨statement.expression.relocate move, statement.assignment.map (Expression.relocate move),
    move statement.location⟩

def Block.relocate (block : Block) : Block :=
  ⟨block.statements.map (Statement.relocate move), block.tail.map (Expression.relocate move),
    move block.location⟩

def Specifier.relocate : Specifier → Specifier
  | named identifier => named (identifier.relocate move)
  | colon => colon

def Parameter.relocate (parameter : Parameter) : Parameter :=
  ⟨parameter.mutability, parameter.specifier.relocate move, move parameter.location⟩

def ParameterList.relocate (list : ParameterList) : ParameterList :=
  ⟨list.parameters.map (Parameter.relocate move), move list.location⟩

def FunctionDefinition.relocate (definition : FunctionDefinition) : FunctionDefinition :=
  ⟨definition.visibility, definition.name.relocate move,
    definition.parameters.map (ParameterList.relocate move),
    definition.returnType.map (QualifiedIdentifier.relocate move),
    definition.body.relocate move, move definition.location⟩

def ImplementationBlock.relocate (block : ImplementationBlock) : ImplementationBlock :=
  ⟨block.name.relocate move, block.functions.map (FunctionDefinition.relocate move),
    move block.location⟩

def TypeDefinition.relocate (definition : TypeDefinition) : TypeDefinition :=
  ⟨definition.name.relocate move, definition.value.relocate move, move definition.location⟩

def ProgramStatement.relocate (statement : ProgramStatement) : ProgramStatement :=
  ⟨statement.name.relocate move, move statement.location⟩

def UseStatement.relocate (statement : UseStatement) : UseStatement :=
  ⟨statement.path.relocate move, move statement.location⟩

def SyntaxUnit.relocate : SyntaxUnit → SyntaxUnit
  | use statement => use (statement.relocate move)
  | program statement => program (statement.relocate move)
  | type definition => type (definition.relocate move)
  | implementation block => implementation (block.relocate move)

def SourceFile.relocate (file : SourceFile) : SourceFile :=
  ⟨file.units.map (SyntaxUnit.relocate move)⟩

def Node.relocate : Node → Node
  | sourceFile tree => sourceFile (tree.relocate move)
  | syntaxUnit tree => syntaxUnit (tree.relocate move)
  | useStatement tree => useStatement (tree.relocate move)
  | programStatement tree => programStatement (tree.relocate move)
  | typeDefinition tree => typeDefinition (tree.relocate move)
  | implementationBlock tree => implementationBlock (tree.relocate move)
  | functionDefinition tree => functionDefinition (tree.relocate move)
  | parameterList tree => parameterList (tree.relocate move)
  | parameter tree => parameter (tree.relocate move)
  | block tree => block (tree.relocate move)
  | statement tree => statement (tree.relocate move)
  | expression tree => expression (tree.relocate move)
  | qualifiedIdentifier tree => qualifiedIdentifier (tree.relocate move)

/-- A relocated answer: the value changes by `f`, which relocates it, and an error is relocated. -/
def relocateAnswer (f : α → β) : Except Error α → Except Error β
  | .ok value => .ok (f value)
  | .error error => .error (error.relocate move)

section Nowhere

@[simp] theorem Token.relocate_id : Token.relocate id = id := rfl

@[simp] theorem Error.relocate_id : Error.relocate id = id := rfl

@[simp] theorem Identifier.relocate_id : Identifier.relocate id = id := rfl

@[simp] theorem QualifiedIdentifier.relocate_id : QualifiedIdentifier.relocate id = id := by
  funext path
  simp [relocate]

@[simp] theorem Expression.relocate_id : Expression.relocate id = id := by
  funext expression
  induction expression with
  | number text location => rfl
  | identifier name => rfl
  | range left right location left_ih right_ih => rw [relocate, left_ih, right_ih]; rfl
  | arrayType base index element location => rfl

@[simp] theorem Statement.relocate_id : Statement.relocate id = id := by
  funext statement
  simp [relocate]

@[simp] theorem Block.relocate_id : Block.relocate id = id := by
  funext block
  simp [relocate]

@[simp] theorem Specifier.relocate_id : Specifier.relocate id = id := by
  funext specifier
  cases specifier <;> rfl

@[simp] theorem Parameter.relocate_id : Parameter.relocate id = id := by
  funext parameter
  simp [relocate]

@[simp] theorem ParameterList.relocate_id : ParameterList.relocate id = id := by
  funext list
  simp [relocate]

@[simp] theorem FunctionDefinition.relocate_id : FunctionDefinition.relocate id = id := by
  funext definition
  simp [relocate]

@[simp] theorem ImplementationBlock.relocate_id : ImplementationBlock.relocate id = id := by
  funext block
  simp [relocate]

@[simp] theorem TypeDefinition.relocate_id : TypeDefinition.relocate id = id := by
  funext definition
  simp [relocate]

@[simp] theorem ProgramStatement.relocate_id : ProgramStatement.relocate id = id := by
  funext statement
  simp [relocate]

@[simp] theorem UseStatement.relocate_id : UseStatement.relocate id = id := by
  funext statement
  simp [relocate]

@[simp] theorem SyntaxUnit.relocate_id : SyntaxUnit.relocate id = id := by
  funext member
  cases member <;> simp [relocate]

@[simp] theorem SourceFile.relocate_id : SourceFile.relocate id = id := by
  funext file
  simp [relocate]

/-- A tree whose locations stay is the same tree. -/
@[simp] theorem Node.relocate_id : Node.relocate id = id := by
  funext node
  cases node <;> simp [relocate]

@[simp] theorem relocate_answer_id (answer : Except Error α) :
    relocateAnswer id id answer = answer := by
  cases answer <;> rfl

end Nowhere

section Descriptions

variable {move}

@[simp] theorem Token.relocate_kind (token : Token) : (token.relocate move).kind = token.kind := rfl

@[simp] theorem Expression.relocate_location (expression : Expression) :
    (expression.relocate move).location = move expression.location := by
  cases expression <;> rfl

/-- What an error says of the token found does not tell where the token stands. -/
theorem Expectation.relocate_error (wanted : Expectation) (found : Token) :
    wanted.error (found.relocate move) = (wanted.error found).relocate move := by
  unfold Expectation.error
  rw [Token.relocate_kind]
  split <;> rfl

theorem Refusal.relocate_error (refusal : Refusal) (found : Token) :
    refusal.error (found.relocate move) = (refusal.error found).relocate move := by
  cases refusal <;> rfl

end Descriptions

end Sierra
