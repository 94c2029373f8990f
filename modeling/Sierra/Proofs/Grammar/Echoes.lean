import Sierra.Proofs.Grammar.Locality
import Sierra.Proofs.Grammar.Units
import Sierra.Source

/-!
# The rules look at nothing else

Each rule is put together from parsers that look only at the tokens they take and at the one behind
them, so it does no more than they do. A location reaches a tree or an error in one way only, from
the token that it names; relocating the tokens therefore relocates the reply of each rule and of
each step.
-/

namespace Sierra

set_option autoImplicit false

open Sierra.Parser

variable {α : Type} {move : Location → Location}

namespace Parser

theorem modifier_echoed (word word' : Keyword) (value value' : α) :
    (readModifier word word' value value').Echoed move id
      (readModifier word word' value value') := by
  apply next_echoed.bind
  intro found
  rw [Token.relocate_kind]
  split
  · exact (pure_echoed _).behind
  split
  · exact (pure_echoed _).behind
  · exact pure_echoed _

end Parser

theorem Identifier.echoed (wanted : Expectation) :
    (Identifier.read wanted).Echoed move (Identifier.relocate move) (Identifier.read wanted) := by
  apply (expect_echoed wanted).bind
  intro token
  exact pure_echoed _

theorem QualifiedIdentifier.echoed :
    QualifiedIdentifier.read.Echoed move (relocate move) QualifiedIdentifier.read := by
  apply (Identifier.echoed .pathStart).bind
  intro first
  apply (many_behind_echoed _ (Identifier.echoed .pathSegment)).bind
  intro others
  exact pure_echoed _

namespace Expression

theorem array_echoed : readArray.Echoed move
    (Prod.map (Identifier.relocate move) (Identifier.relocate move)) readArray := by
  apply Echoed.behind
  apply (Identifier.echoed .arrayIndex).bind
  intro index
  apply (expect_echoed .arrayIndexClosing).bind
  intro _
  apply (expect_echoed .arrayOf).bind
  intro _
  apply (Identifier.echoed .arrayElement).bind
  intro element
  exact pure_echoed _

theorem operand_echoed : readOperand.Echoed move (relocate move) readOperand := by
  rw [operand_eq]
  apply (expect_echoed .operand).bind
  intro token
  rw [Token.relocate_kind]
  split
  · exact pure_echoed _
  · apply (read_if_echoed _ array_echoed).map
    intro tail
    cases tail <;> rfl

def readRight (left : Expression) : Parser Input Expression := do
  let right ← readOperand
  return .range left right left.location

theorem right_echoed (left : Expression) :
    (readRight left).Echoed move (relocate move) (readRight (left.relocate move)) := by
  apply operand_echoed.bind
  intro right
  rw [relocate_location]
  exact pure_echoed _

theorem ranges_consume : Consumes (· = .punctuation .dotDot) readRange := by
  have rounds : ∀ left, (readRight left).Echoed id (relocate id) (readRight (left.relocate id)) :=
    right_echoed
  exact consumes_behind rounds

theorem echoed : Expression.read.Echoed move (relocate move) Expression.read := by
  apply operand_echoed.bind
  intro first
  exact repeat_while_echoed ranges_consume (fun left => (right_echoed left).behind) first

end Expression

namespace Statement

theorem behind_echoed (expression : Expression) :
    (readBehind expression).Echoed move (relocate move)
      (readBehind (expression.relocate move)) := by
  apply (read_if_echoed (.punctuation .colonEquals) Expression.echoed.behind).bind
  intro assignment
  apply (expect_echoed .statementClosing).bind
  intro _
  rw [Expression.relocate_location]
  exact pure_echoed _

theorem echoed : Statement.read.Echoed move (relocate move) Statement.read :=
  Expression.echoed.bind behind_echoed

end Statement

namespace Block

def relocateParts (move : Location → Location) : Parts → Parts :=
  Prod.map (List.map (Statement.relocate move)) (Option.map (Expression.relocate move))

theorem part_echoed (parts : Parts) :
    (readPart parts).Echoed move (relocateParts move) (readPart (relocateParts move parts)) := by
  apply Expression.echoed.bind
  intro expression
  apply next_echoed.bind
  intro found
  rw [Token.relocate_kind]
  split
  · exact pure_echoed _
  · apply (Statement.behind_echoed expression).bind
    intro statement
    exact pure_echoed _

theorem echoed : Block.read.Echoed move (relocate move) Block.read := by
  apply (expect_echoed .blockOpening).bind
  intro opening
  apply (repeat_while_echoed consumes part_echoed ([], none)).bind
  intro parts
  apply (expect_echoed .blockClosing).bind
  intro _
  rw [relocateParts, Prod.map_fst, ← List.map_reverse]
  exact pure_echoed _

end Block

theorem Mutability.echoed : Mutability.read?.Echoed move id Mutability.read? := by
  rw [read_eq]
  exact modifier_echoed _ _ _ _

theorem Specifier.echoed : Specifier.read.Echoed move (relocate move) Specifier.read := by
  apply (refuse_echoed (.keyword .self) rfl).bind
  intro _
  apply (expect_echoed .parameterSpecifier).bind
  intro token
  rw [Token.relocate_kind]
  split
  · apply (refuse_echoed (.punctuation .colon) rfl).bind
    intro _
    exact pure_echoed _
  · apply (refuse_echoed .identifier rfl).bind
    intro _
    exact pure_echoed _

theorem Parameter.echoed : Parameter.read.Echoed move (relocate move) Parameter.read := by
  apply next_echoed.bind
  intro opening
  apply Mutability.echoed.bind
  intro mutability
  apply Specifier.echoed.bind
  intro specifier
  apply (expect_echoed .parameterClosing).bind
  intro _
  exact pure_echoed _

theorem ParameterList.echoed :
    ParameterList.read.Echoed move (relocate move) ParameterList.read := by
  apply (expect_echoed .parametersOpening).bind
  intro opening
  apply (refuse_echoed (.punctuation .rightParen) rfl).bind
  intro _
  apply Parameter.echoed.bind
  intro first
  apply (many_behind_echoed _ Parameter.echoed).bind
  intro others
  apply (expect_echoed .parametersClosing).bind
  intro _
  exact pure_echoed _

theorem Visibility.echoed : Visibility.read?.Echoed move id Visibility.read? := by
  rw [read_eq]
  exact modifier_echoed _ _ _ _

theorem FunctionDefinition.echoed :
    FunctionDefinition.read.Echoed move (relocate move) FunctionDefinition.read := by
  apply next_echoed.bind
  intro opening
  apply Visibility.echoed.bind
  intro visibility
  apply (expect_echoed .functionOpening).bind
  intro _
  apply (Identifier.echoed .functionName).bind
  intro name
  apply (read_if_echoed (.punctuation .leftParen) ParameterList.echoed).bind
  intro parameters
  apply (read_if_echoed (.punctuation .colon) QualifiedIdentifier.echoed.behind).bind
  intro returnType
  apply Block.echoed.bind
  intro body
  exact pure_echoed _

theorem ImplementationBlock.echoed :
    ImplementationBlock.read.Echoed move (relocate move) ImplementationBlock.read := by
  apply (expect_echoed .implementationOpening).bind
  intro opening
  apply (Identifier.echoed .implementationName).bind
  intro name
  have consumes := FunctionDefinition.reading.consumes rfl (· ≠ .keyword .endBlock)
  apply (many_while_echoed consumes FunctionDefinition.echoed).bind
  intro functions
  apply (expect_echoed .implementationClosing).bind
  intro _
  exact pure_echoed _

theorem TypeDefinition.echoed :
    TypeDefinition.read.Echoed move (relocate move) TypeDefinition.read := by
  apply (expect_echoed .typeOpening).bind
  intro opening
  apply (Identifier.echoed .typeName).bind
  intro name
  apply (expect_echoed .typeEquals).bind
  intro _
  apply Expression.echoed.bind
  intro value
  apply (expect_echoed .typeClosing).bind
  intro _
  exact pure_echoed _

theorem ProgramStatement.echoed :
    ProgramStatement.read.Echoed move (relocate move) ProgramStatement.read := by
  apply (expect_echoed .programOpening).bind
  intro opening
  apply (Identifier.echoed .programName).bind
  intro name
  apply (expect_echoed .programClosing).bind
  intro _
  exact pure_echoed _

theorem UseStatement.echoed :
    UseStatement.read.Echoed move (relocate move) UseStatement.read := by
  apply (expect_echoed .useOpening).bind
  intro opening
  apply QualifiedIdentifier.echoed.bind
  intro path
  apply (expect_echoed .useClosing).bind
  intro _
  exact pure_echoed _

theorem SyntaxUnit.echoed : SyntaxUnit.read.Echoed move (relocate move) SyntaxUnit.read := by
  apply next_echoed.bind
  intro found
  rw [Token.relocate_kind, Expectation.relocate_error]
  split
  · exact UseStatement.echoed.map _ _ fun _ => rfl
  · exact ProgramStatement.echoed.map _ _ fun _ => rfl
  · exact TypeDefinition.echoed.map _ _ fun _ => rfl
  · exact ImplementationBlock.echoed.map _ _ fun _ => rfl
  · exact fail_echoed _

theorem SourceFile.echoed : SourceFile.read.Echoed move (relocate move) SourceFile.read := by
  have consumes := SyntaxUnit.reading.consumes rfl fun _ => true
  apply (many_while_echoed consumes SyntaxUnit.echoed).bind
  intro units
  exact pure_echoed _

namespace Rule

theorem echoed (rule : Rule) : rule.read.Echoed move (Node.relocate move) rule.read := by
  cases rule with
  | sourceFile => exact SourceFile.echoed.map _ _ fun _ => rfl
  | syntaxUnit => exact SyntaxUnit.echoed.map _ _ fun _ => rfl
  | useStatement => exact UseStatement.echoed.map _ _ fun _ => rfl
  | programStatement => exact ProgramStatement.echoed.map _ _ fun _ => rfl
  | typeDefinition => exact TypeDefinition.echoed.map _ _ fun _ => rfl
  | implementationBlock => exact ImplementationBlock.echoed.map _ _ fun _ => rfl
  | functionDefinition => exact FunctionDefinition.echoed.map _ _ fun _ => rfl
  | parameterList => exact ParameterList.echoed.map _ _ fun _ => rfl
  | parameter => exact Parameter.echoed.map _ _ fun _ => rfl
  | block => exact Block.echoed.map _ _ fun _ => rfl
  | statement => exact Statement.echoed.map _ _ fun _ => rfl
  | expression => exact Expression.echoed.map _ _ fun _ => rfl
  | qualifiedIdentifier => exact QualifiedIdentifier.echoed.map _ _ fun _ => rfl

theorem whole_echoed (rule : Rule) :
    rule.readWhole.Echoed move (Node.relocate move) rule.readWhole := by
  apply rule.echoed.bind
  intro node
  apply next_echoed.bind
  intro found
  rw [Token.relocate_kind, Refusal.relocate_error]
  split
  · exact pure_echoed _
  · exact fail_echoed _

end Rule

theorem Step.echoed (step : Step) : step.read.Echoed move (Node.relocate move) step.read := by
  cases step with
  | file => exact Rule.sourceFile.echoed
  | tree rule => exact rule.echoed
  | whole rule => exact rule.whole_echoed

end Sierra
