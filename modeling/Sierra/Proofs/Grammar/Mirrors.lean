import Sierra.Proofs.Grammar.Cursors

/-!
# The rules on a cursor

Each rule is put together from parsers that answer on a cursor what they answer on its input, so it
does the same, and so does each step.
-/

namespace Sierra

set_option autoImplicit false

open Sierra.Parser

theorem Identifier.mirrored (wanted : Expectation) :
    (Identifier.read wanted).Mirrored (Identifier.read wanted) :=
  (expect_mirrored wanted).bind fun _ => pure_mirrored _

theorem QualifiedIdentifier.mirrored :
    Mirrored QualifiedIdentifier.read QualifiedIdentifier.read := by
  apply (Identifier.mirrored .pathStart).bind
  intro first
  have consumes := (Identifier.reading .pathSegment rfl).consumes_behind (.punctuation .dot)
  apply (many_while_mirrored consumes (Identifier.mirrored .pathSegment).behind).bind
  intro others
  exact pure_mirrored _

namespace Expression

theorem array_mirrored : Mirrored readArray readArray := by
  apply Mirrored.behind
  apply (Identifier.mirrored .arrayIndex).bind
  intro index
  apply (expect_mirrored .arrayIndexClosing).bind
  intro _
  apply (expect_mirrored .arrayOf).bind
  intro _
  apply (Identifier.mirrored .arrayElement).bind
  intro element
  exact pure_mirrored _

theorem operand_mirrored : Mirrored readOperand readOperand := by
  apply (expect_mirrored .operand).bind
  intro token
  split
  · exact pure_mirrored _
  · apply (read_if_mirrored _ array_mirrored).bind
    intro tail
    cases tail <;> exact pure_mirrored _

theorem range_mirrored (left : Expression) : Mirrored (readRange left) (readRange left) := by
  apply Mirrored.behind
  apply operand_mirrored.bind
  intro right
  exact pure_mirrored _

theorem mirrored : Mirrored Expression.read Expression.read := by
  apply operand_mirrored.bind
  intro first
  exact repeat_while_mirrored ranges_consume range_mirrored first

end Expression

namespace Statement

theorem behind_mirrored (expression : Expression) :
    Mirrored (readBehind expression) (readBehind expression) := by
  apply (read_if_mirrored _ Expression.mirrored.behind).bind
  intro assignment
  apply (expect_mirrored .statementClosing).bind
  intro _
  exact pure_mirrored _

theorem mirrored : Mirrored Statement.read Statement.read :=
  Expression.mirrored.bind behind_mirrored

end Statement

namespace Block

theorem part_mirrored (parts : Parts) : Mirrored (readPart parts) (readPart parts) := by
  apply Expression.mirrored.bind
  intro expression
  apply next_mirrored
  intro found
  rw [Token.bare_kind]
  split
  · exact pure_mirrored _
  · apply (Statement.behind_mirrored expression).bind
    intro statement
    exact pure_mirrored _

theorem mirrored : Mirrored Block.read Block.read := by
  apply (expect_mirrored .blockOpening).bind
  intro opening
  apply (repeat_while_mirrored consumes part_mirrored ([], none)).bind
  intro parts
  apply (expect_mirrored .blockClosing).bind
  intro _
  exact pure_mirrored _

end Block

theorem Mutability.mirrored : Mirrored Mutability.read? Mutability.read? := by
  apply next_mirrored
  intro found
  rw [Token.bare_kind]
  split
  · exact (pure_mirrored _).behind
  · exact (pure_mirrored _).behind
  · exact pure_mirrored _

theorem Specifier.mirrored : Mirrored Specifier.read Specifier.read := by
  apply (refuse_mirrored (by simp) .bareSelf).bind
  intro _
  apply (expect_mirrored .parameterSpecifier).bind
  intro token
  split
  · apply (refuse_mirrored (by simp) _).bind
    intro _
    exact pure_mirrored _
  · apply (refuse_mirrored (by simp) _).bind
    intro _
    exact pure_mirrored _

theorem Parameter.mirrored : Mirrored Parameter.read Parameter.read := by
  apply next_mirrored
  intro opening
  rw [Token.bare_location]
  apply Mutability.mirrored.bind
  intro mutability
  apply Specifier.mirrored.bind
  intro specifier
  apply (expect_mirrored .parameterClosing).bind
  intro _
  exact pure_mirrored _

theorem ParameterList.mirrored : Mirrored ParameterList.read ParameterList.read := by
  apply (expect_mirrored .parametersOpening).bind
  intro opening
  apply (refuse_mirrored (by simp) _).bind
  intro _
  apply Parameter.mirrored.bind
  intro first
  have consumes := Parameter.reading.consumes_behind (.punctuation .comma)
  apply (many_while_mirrored consumes Parameter.mirrored.behind).bind
  intro others
  apply (expect_mirrored .parametersClosing).bind
  intro _
  exact pure_mirrored _

theorem Visibility.mirrored : Mirrored Visibility.read? Visibility.read? := by
  apply next_mirrored
  intro found
  rw [Token.bare_kind]
  split
  · exact (pure_mirrored _).behind
  · exact (pure_mirrored _).behind
  · exact pure_mirrored _

theorem FunctionDefinition.mirrored :
    Mirrored FunctionDefinition.read FunctionDefinition.read := by
  apply next_mirrored
  intro opening
  rw [Token.bare_location]
  apply Visibility.mirrored.bind
  intro visibility
  apply (expect_mirrored .functionOpening).bind
  intro _
  apply (Identifier.mirrored .functionName).bind
  intro name
  apply (read_if_mirrored _ ParameterList.mirrored).bind
  intro parameters
  apply (read_if_mirrored _ QualifiedIdentifier.mirrored.behind).bind
  intro returnType
  apply Block.mirrored.bind
  intro body
  exact pure_mirrored _

theorem ImplementationBlock.mirrored :
    Mirrored ImplementationBlock.read ImplementationBlock.read := by
  apply (expect_mirrored .implementationOpening).bind
  intro opening
  apply (Identifier.mirrored .implementationName).bind
  intro name
  have consumes := FunctionDefinition.reading.consumes rfl (· ≠ .keyword .endBlock)
  apply (many_while_mirrored consumes FunctionDefinition.mirrored).bind
  intro functions
  apply (expect_mirrored .implementationClosing).bind
  intro _
  exact pure_mirrored _

theorem TypeDefinition.mirrored : Mirrored TypeDefinition.read TypeDefinition.read := by
  apply (expect_mirrored .typeOpening).bind
  intro opening
  apply (Identifier.mirrored .typeName).bind
  intro name
  apply (expect_mirrored .typeEquals).bind
  intro _
  apply Expression.mirrored.bind
  intro value
  apply (expect_mirrored .typeClosing).bind
  intro _
  exact pure_mirrored _

theorem ProgramStatement.mirrored : Mirrored ProgramStatement.read ProgramStatement.read := by
  apply (expect_mirrored .programOpening).bind
  intro opening
  apply (Identifier.mirrored .programName).bind
  intro name
  apply (expect_mirrored .programClosing).bind
  intro _
  exact pure_mirrored _

theorem UseStatement.mirrored : Mirrored UseStatement.read UseStatement.read := by
  apply (expect_mirrored .useOpening).bind
  intro opening
  apply QualifiedIdentifier.mirrored.bind
  intro path
  apply (expect_mirrored .useClosing).bind
  intro _
  exact pure_mirrored _

theorem SyntaxUnit.mirrored : Mirrored SyntaxUnit.read SyntaxUnit.read := by
  apply next_mirrored
  intro found
  rw [Token.bare_kind, Expectation.error_bare]
  split
  · exact UseStatement.mirrored.map _
  · exact ProgramStatement.mirrored.map _
  · exact TypeDefinition.mirrored.map _
  · exact ImplementationBlock.mirrored.map _
  · exact fail_mirrored _

theorem SourceFile.mirrored : Mirrored SourceFile.read SourceFile.read := by
  have consumes := SyntaxUnit.reading.consumes rfl fun _ => true
  apply (many_while_mirrored consumes SyntaxUnit.mirrored).bind
  intro units
  exact pure_mirrored _

namespace Rule

theorem mirrored (rule : Rule) : Mirrored rule.read rule.read := by
  cases rule with
  | sourceFile => exact SourceFile.mirrored.map _
  | syntaxUnit => exact SyntaxUnit.mirrored.map _
  | useStatement => exact UseStatement.mirrored.map _
  | programStatement => exact ProgramStatement.mirrored.map _
  | typeDefinition => exact TypeDefinition.mirrored.map _
  | implementationBlock => exact ImplementationBlock.mirrored.map _
  | functionDefinition => exact FunctionDefinition.mirrored.map _
  | parameterList => exact ParameterList.mirrored.map _
  | parameter => exact Parameter.mirrored.map _
  | block => exact Block.mirrored.map _
  | statement => exact Statement.mirrored.map _
  | expression => exact Expression.mirrored.map _
  | qualifiedIdentifier => exact QualifiedIdentifier.mirrored.map _

theorem whole_mirrored (rule : Rule) : Mirrored rule.readWhole rule.readWhole := by
  apply rule.mirrored.bind
  intro node
  apply next_mirrored
  intro found
  rw [Token.bare_kind]
  split
  case isTrue => exact pure_mirrored node
  case isFalse inside =>
    rw [Token.bare_of_inside inside]
    exact fail_mirrored _

end Rule

theorem Step.mirrored (step : Step) : Mirrored step.read step.read := by
  cases step with
  | file => exact SourceFile.mirrored.map _
  | tree rule => exact rule.mirrored
  | whole rule => exact rule.whole_mirrored

/-- Steps on a cursor are those on its input, and each leaves a cursor in the same tokens. -/
theorem Cursor.run_mirrored (cursor : Cursor) (steps : List Step) :
    cursor.input.run steps = (cursor.run steps).map (Prod.map id Cursor.input) ∧
      ∀ reply ∈ cursor.run steps, cursor.Moves reply.2 := by
  induction steps generalizing cursor with
  | nil => exact ⟨rfl, List.forall_mem_nil _⟩
  | cons step steps induction =>
      obtain ⟨same, moves⟩ := step.mirrored cursor
      obtain ⟨same', moves'⟩ := induction (step.read cursor).2
      constructor
      · rw [Input.run, TokenStream.run_cons, same]
        exact congrArg (List.cons _) same'
      · intro reply member
        rcases List.mem_cons.mp member with rfl | member
        · exact moves
        · exact moves.trans (moves' reply member)

end Sierra
