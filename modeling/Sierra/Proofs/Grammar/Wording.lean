import Sierra.Proofs.Grammar.Units
import Sierra.Proofs.Tree.Text
import Sierra.Source

/-!
# What parsers say

A message is worded by the place in the grammar where a parser fails, and quotes nothing but the
lexemes of tokens. So where these can be printed every message can. A parser keeps this up when it
hands on printable tokens as well, and then it is kept by every way to put parsers together.
-/

namespace Sierra

set_option autoImplicit false

open Sierra.Parser

variable {α β : Type}

section Words

theorem Rule.plain_name (rule : Rule) : Plain rule.name := by
  cases rule <;> exact plain_of_list rfl

theorem Keyword.plain_spelling (word : Keyword) : Plain word.spelling := by
  cases word <;> exact plain_of_list rfl

theorem Mark.plain_spelling (mark : Mark) : Plain mark.spelling := by
  cases mark <;> exact plain_of_list rfl

theorem Token.Kind.plain_label (kind : Token.Kind) : Plain kind.label := by
  cases kind with
  | keyword word =>
      simp only [label, plain_append]
      exact ⟨⟨plain_of_list rfl, word.plain_spelling⟩, plain_of_list rfl⟩
  | punctuation mark =>
      simp only [label, plain_append]
      exact ⟨⟨plain_of_list rfl, mark.plain_spelling⟩, plain_of_list rfl⟩
  | _ => exact plain_of_list rfl

theorem Token.plain_describe {token : Token} (plain : Plain token.lexeme) :
    Plain token.describe := by
  unfold describe
  split
  · simp only [plain_append]
    exact ⟨⟨plain_of_list rfl, plain⟩, plain_of_list rfl⟩
  · simp only [plain_append]
    exact ⟨⟨plain_of_list rfl, plain⟩, plain_of_list rfl⟩
  · exact plain_of_list rfl
  · exact Token.Kind.plain_label _

theorem Expectation.printable_wording (wanted : Expectation) : Sierra.Plain wanted.wording := by
  cases wanted <;> exact plain_of_list rfl

theorem Expectation.printable_error (wanted : Expectation) {found : Token}
    (plain : Sierra.Plain found.lexeme) : Sierra.Plain (wanted.error found).fault.message := by
  have message : Sierra.Plain (wanted.wording ++ ", found " ++ found.describe) := by
    simp only [plain_append]
    exact ⟨⟨wanted.printable_wording, plain_of_list rfl⟩, Token.plain_describe plain⟩
  unfold error
  split <;> exact message

def Refusal.Printable (refusal : Refusal) : Prop :=
  ∀ found : Token, Plain found.lexeme → Plain (refusal.error found).fault.message

namespace Refusal

theorem printable_empty_list : emptyParameterList.Printable :=
  fun _ _ => plain_of_list rfl

theorem printable_bare_self : bareSelf.Printable :=
  fun _ _ => plain_of_list rfl

theorem printable_named_type : namedType.Printable := by
  intro found plain
  change Plain (_ ++ found.lexeme ++ _)
  simp only [plain_append]
  exact ⟨⟨plain_of_list rfl, plain⟩, plain_of_list rfl⟩

theorem printable_typed_parameter {name : String} (plain : Plain name) :
    (typedParameter name).Printable := by
  intro found _
  change Plain (_ ++ name ++ _ ++ _ ++ name ++ _)
  simp only [plain_append]
  exact ⟨⟨⟨⟨⟨plain_of_list rfl, plain⟩, plain_of_list rfl⟩, plain_of_list rfl⟩, plain⟩,
    plain_of_list rfl⟩

theorem printable_trailing (rule : Rule) : (trailing rule).Printable := by
  intro found plain
  change Plain (_ ++ found.describe ++ _ ++ rule.name)
  simp only [plain_append]
  exact ⟨⟨⟨plain_of_list rfl, Token.plain_describe plain⟩, plain_of_list rfl⟩, rule.plain_name⟩

end Refusal

end Words

def Input.Printable (input : Input) : Prop :=
  ∀ token ∈ input.tokens, Plain token.lexeme

namespace Input.Printable

variable {input : Input}

theorem next (plain : input.Printable) : Plain input.next.lexeme := by
  cases tokens : input.tokens with
  | nil => simp [Input.next, tokens, Token.endOfInput]
  | cons token rest =>
      rw [next_of_tokens tokens]
      exact plain token (by simp [tokens])

theorem rest (plain : input.Printable) : input.rest.Printable :=
  fun token member => plain token (List.mem_of_mem_tail member)

end Input.Printable

namespace Parser

/-- On printable tokens the parser answers a value that fits or an error with a printable message,
and leaves printable tokens. -/
structure SpeaksAt (parser : Parser Input α) (fits : α → Prop) (input : Input) : Prop where
  left : (parser input).2.Printable
  value : ∀ value, (parser input).1 = .ok value → fits value
  message : ∀ error, (parser input).1 = .error error → Plain error.fault.message

def Speaks (parser : Parser Input α) (fits : α → Prop) : Prop :=
  ∀ input, input.Printable → parser.SpeaksAt fits input

abbrev Plainspoken (parser : Parser Input α) : Prop :=
  parser.Speaks fun _ => True

section Speaks

variable {parser first : Parser Input α} {second : α → Parser Input β} {fits : α → Prop}
  {fits' : β → Prop}

theorem pure_speaks {value : α} (fit : fits value) : (pure value : Parser Input α).Speaks fits := by
  intro input plain
  have reply : (pure value : Parser Input α) input = (.ok value, input) := rfl
  refine ⟨plain, ?_, by simp [reply]⟩
  intro other same
  obtain rfl : value = other := by simpa [reply] using same
  exact fit

theorem Speaks.bind (speaks : first.Speaks fits)
    (speaks' : ∀ value, fits value → (second value).Speaks fits') :
    (first >>= second).Speaks fits' := by
  intro input plain
  obtain ⟨left, value, message⟩ := speaks input plain
  cases reply : first input with
  | mk answer rest =>
      rw [reply] at left value message
      cases answer with
      | ok part =>
          have onward : (first >>= second) input = second part rest := bind_of_ok reply
          obtain ⟨left', value', message'⟩ := speaks' part (value part rfl) rest left
          exact ⟨onward ▸ left', onward ▸ value', onward ▸ message'⟩
      | error error =>
          have failed : (first >>= second) input = (.error error, rest) := bind_of_error reply
          refine ⟨failed ▸ left, by simp [failed], ?_⟩
          intro other same
          rw [failed] at same
          exact Except.error.inj same ▸ message error rfl

theorem Speaks.map (speaks : first.Speaks fits) (f : α → β) : (f <$> first).Plainspoken := by
  rw [map_eq_pure_bind]
  exact speaks.bind fun _ _ => pure_speaks trivial

theorem next_speaks : next.Speaks fun found => Plain found.lexeme := by
  intro input plain
  have reply : next input = (.ok input.next, input) := rfl
  refine ⟨plain, ?_, by simp [reply]⟩
  intro found same
  obtain rfl : input.next = found := by simpa [reply] using same
  exact plain.next

theorem take_speaks : take.Speaks fun found => Plain found.lexeme := by
  intro input plain
  refine ⟨plain.rest, ?_, by simp [take_eq]⟩
  intro found same
  obtain rfl : input.next = found := by simpa [take_eq] using same
  exact plain.next

theorem advance_speaks : advance.Plainspoken := by
  intro input plain
  have reply : advance input = (.ok (), input.rest) := rfl
  exact ⟨plain.rest, fun _ _ => trivial, by simp [reply]⟩

theorem fail_speaks {error : Error} (plain : Plain error.fault.message) :
    (fail error : Parser Input α).Speaks fits := by
  intro input inside
  have reply : (fail error : Parser Input α) input = (.error error, input) := rfl
  refine ⟨inside, by simp [reply], ?_⟩
  intro other same
  obtain rfl : error = other := by simpa [reply] using same
  exact plain

theorem Speaks.behind (speaks : parser.Speaks fits) : (do advance; parser).Speaks fits :=
  advance_speaks.bind fun _ _ => speaks

theorem expect_speaks (wanted : Expectation) :
    (expect wanted).Speaks fun found => Plain found.lexeme := by
  apply next_speaks.bind
  intro found plain
  split
  · exact take_speaks
  · exact fail_speaks (wanted.printable_error plain)

theorem refuse_speaks (kind : Token.Kind) {refusal : Refusal} (worded : refusal.Printable) :
    (refuse kind refusal).Plainspoken := by
  apply next_speaks.bind
  intro found plain
  split
  · exact fail_speaks (worded found plain)
  · exact pure_speaks trivial

theorem read_if_speaks (kind : Token.Kind) (speaks : parser.Plainspoken) :
    (readIf kind parser).Plainspoken := by
  apply next_speaks.bind
  intro found _
  split
  · exact speaks.map some
  · exact pure_speaks trivial

theorem modifier_speaks (word word' : Keyword) (value value' : α) :
    (readModifier word word' value value').Plainspoken := by
  apply next_speaks.bind
  intro found _
  split
  · exact (pure_speaks trivial).behind
  split
  · exact (pure_speaks trivial).behind
  · exact pure_speaks trivial

variable {more : Token.Kind → Bool}

theorem repeat_within_speaks {step : α → Parser Input α}
    (speaks : ∀ value, (step value).Plainspoken) (bound : Nat) (value : α) :
    (repeatWithin more step bound value).Plainspoken := by
  induction bound generalizing value with
  | zero => exact pure_speaks trivial
  | succ bound induction =>
      intro input plain
      have rounds := (speaks value).bind fun after _ => induction after
      by_cases go : input.ahead.any more = true
      · have again : repeatWithin more step (bound + 1) value input =
            (step value >>= repeatWithin more step bound) input := by
          rw [repeat_within_succ, if_pos go]
        obtain ⟨left, _, message⟩ := rounds input plain
        exact ⟨again ▸ left, fun _ _ => trivial, again ▸ message⟩
      · have stopped : repeatWithin more step (bound + 1) value input = (.ok value, input) := by
          rw [repeat_within_succ, if_neg go]
        exact ⟨stopped ▸ plain, fun _ _ => trivial, by simp [stopped]⟩

theorem repeat_while_speaks {step : α → Parser Input α}
    (speaks : ∀ value, (step value).Plainspoken) (value : α) :
    (repeatWhile more step value).Plainspoken := by
  intro input plain
  obtain ⟨left, value, message⟩ := repeat_within_speaks speaks input.tokens.length value input plain
  exact ⟨left, value, message⟩

theorem many_while_speaks {item : Parser Input α} (speaks : item.Plainspoken) :
    (manyWhile more item).Plainspoken := by
  have rounds : ∀ values, (do return (← item) :: values : Parser Input (List α)).Plainspoken :=
    fun values => speaks.bind fun _ _ => pure_speaks trivial
  exact (repeat_while_speaks rounds []).bind fun _ _ => pure_speaks trivial

end Speaks

end Parser

theorem Identifier.speaks (wanted : Expectation) : (Identifier.read wanted).Plainspoken :=
  (expect_speaks wanted).bind fun _ _ => pure_speaks trivial

theorem QualifiedIdentifier.speaks : QualifiedIdentifier.read.Plainspoken := by
  apply (Identifier.speaks .pathStart).bind
  intro first _
  apply (many_while_speaks (Identifier.speaks .pathSegment).behind).bind
  intro others _
  exact pure_speaks trivial

namespace Expression

theorem array_speaks : readArray.Plainspoken := by
  apply Speaks.behind
  apply (Identifier.speaks .arrayIndex).bind
  intro index _
  apply (expect_speaks .arrayIndexClosing).bind
  intro _ _
  apply (expect_speaks .arrayOf).bind
  intro _ _
  apply (Identifier.speaks .arrayElement).bind
  intro element _
  exact pure_speaks trivial

theorem operand_speaks : readOperand.Plainspoken := by
  rw [operand_eq]
  apply (expect_speaks .operand).bind
  intro token _
  split
  · exact pure_speaks trivial
  · exact (read_if_speaks _ array_speaks).map _

theorem speaks : Expression.read.Plainspoken := by
  apply operand_speaks.bind
  intro first _
  apply repeat_while_speaks
  intro left
  apply Speaks.behind
  exact operand_speaks.bind fun _ _ => pure_speaks trivial

end Expression

namespace Statement

theorem behind_speaks (expression : Expression) : (readBehind expression).Plainspoken := by
  apply (read_if_speaks _ Expression.speaks.behind).bind
  intro assignment _
  apply (expect_speaks .statementClosing).bind
  intro _ _
  exact pure_speaks trivial

theorem speaks : Statement.read.Plainspoken :=
  Expression.speaks.bind fun expression _ => behind_speaks expression

end Statement

namespace Block

theorem part_speaks (parts : Parts) : (readPart parts).Plainspoken := by
  apply Expression.speaks.bind
  intro expression _
  apply next_speaks.bind
  intro found _
  split
  · exact pure_speaks trivial
  · exact (Statement.behind_speaks expression).bind fun _ _ => pure_speaks trivial

theorem speaks : Block.read.Plainspoken := by
  apply (expect_speaks .blockOpening).bind
  intro opening _
  apply (repeat_while_speaks part_speaks ([], none)).bind
  intro parts _
  apply (expect_speaks .blockClosing).bind
  intro _ _
  exact pure_speaks trivial

end Block

theorem Mutability.speaks : Mutability.read?.Plainspoken := by
  rw [read_eq]
  exact modifier_speaks _ _ _ _

/-- The name of a parameter with a type is quoted behind the place where it was read. -/
theorem Specifier.speaks : Specifier.read.Plainspoken := by
  apply (refuse_speaks _ Refusal.printable_bare_self).bind
  intro _ _
  apply (expect_speaks .parameterSpecifier).bind
  intro token plain
  split
  · exact (refuse_speaks _ (Refusal.printable_typed_parameter plain)).bind fun _ _ =>
      pure_speaks trivial
  · exact (refuse_speaks _ Refusal.printable_named_type).bind fun _ _ => pure_speaks trivial

theorem Parameter.speaks : Parameter.read.Plainspoken := by
  apply next_speaks.bind
  intro opening _
  apply Mutability.speaks.bind
  intro mutability _
  apply Specifier.speaks.bind
  intro specifier _
  apply (expect_speaks .parameterClosing).bind
  intro _ _
  exact pure_speaks trivial

theorem ParameterList.speaks : ParameterList.read.Plainspoken := by
  apply (expect_speaks .parametersOpening).bind
  intro opening _
  apply (refuse_speaks _ Refusal.printable_empty_list).bind
  intro _ _
  apply Parameter.speaks.bind
  intro first _
  apply (many_while_speaks Parameter.speaks.behind).bind
  intro others _
  apply (expect_speaks .parametersClosing).bind
  intro _ _
  exact pure_speaks trivial

theorem Visibility.speaks : Visibility.read?.Plainspoken := by
  rw [read_eq]
  exact modifier_speaks _ _ _ _

theorem FunctionDefinition.speaks : FunctionDefinition.read.Plainspoken := by
  apply next_speaks.bind
  intro opening _
  apply Visibility.speaks.bind
  intro visibility _
  apply (expect_speaks .functionOpening).bind
  intro _ _
  apply (Identifier.speaks .functionName).bind
  intro name _
  apply (read_if_speaks _ ParameterList.speaks).bind
  intro parameters _
  apply (read_if_speaks _ QualifiedIdentifier.speaks.behind).bind
  intro returnType _
  apply Block.speaks.bind
  intro body _
  exact pure_speaks trivial

theorem ImplementationBlock.speaks : ImplementationBlock.read.Plainspoken := by
  apply (expect_speaks .implementationOpening).bind
  intro opening _
  apply (Identifier.speaks .implementationName).bind
  intro name _
  apply (many_while_speaks FunctionDefinition.speaks).bind
  intro functions _
  apply (expect_speaks .implementationClosing).bind
  intro _ _
  exact pure_speaks trivial

theorem TypeDefinition.speaks : TypeDefinition.read.Plainspoken := by
  apply (expect_speaks .typeOpening).bind
  intro opening _
  apply (Identifier.speaks .typeName).bind
  intro name _
  apply (expect_speaks .typeEquals).bind
  intro _ _
  apply Expression.speaks.bind
  intro value _
  apply (expect_speaks .typeClosing).bind
  intro _ _
  exact pure_speaks trivial

theorem ProgramStatement.speaks : ProgramStatement.read.Plainspoken := by
  apply (expect_speaks .programOpening).bind
  intro opening _
  apply (Identifier.speaks .programName).bind
  intro name _
  apply (expect_speaks .programClosing).bind
  intro _ _
  exact pure_speaks trivial

theorem UseStatement.speaks : UseStatement.read.Plainspoken := by
  apply (expect_speaks .useOpening).bind
  intro opening _
  apply QualifiedIdentifier.speaks.bind
  intro path _
  apply (expect_speaks .useClosing).bind
  intro _ _
  exact pure_speaks trivial

theorem SyntaxUnit.speaks : SyntaxUnit.read.Plainspoken := by
  apply next_speaks.bind
  intro found plain
  split
  · exact UseStatement.speaks.map _
  · exact ProgramStatement.speaks.map _
  · exact TypeDefinition.speaks.map _
  · exact ImplementationBlock.speaks.map _
  · exact fail_speaks (Expectation.unitOpening.printable_error plain)

theorem SourceFile.speaks : SourceFile.read.Plainspoken :=
  (many_while_speaks SyntaxUnit.speaks).bind fun _ _ => pure_speaks trivial

namespace Rule

theorem speaks (rule : Rule) : rule.read.Plainspoken := by
  cases rule with
  | sourceFile => exact SourceFile.speaks.map _
  | syntaxUnit => exact SyntaxUnit.speaks.map _
  | useStatement => exact UseStatement.speaks.map _
  | programStatement => exact ProgramStatement.speaks.map _
  | typeDefinition => exact TypeDefinition.speaks.map _
  | implementationBlock => exact ImplementationBlock.speaks.map _
  | functionDefinition => exact FunctionDefinition.speaks.map _
  | parameterList => exact ParameterList.speaks.map _
  | parameter => exact Parameter.speaks.map _
  | block => exact Block.speaks.map _
  | statement => exact Statement.speaks.map _
  | expression => exact Expression.speaks.map _
  | qualifiedIdentifier => exact QualifiedIdentifier.speaks.map _

theorem whole_speaks (rule : Rule) : rule.readWhole.Plainspoken := by
  apply rule.speaks.bind
  intro node _
  apply next_speaks.bind
  intro found plain
  split
  · exact pure_speaks trivial
  · exact fail_speaks (Refusal.printable_trailing rule found plain)

end Rule

theorem Step.speaks (step : Step) : step.read.Plainspoken := by
  cases step with
  | file => exact SourceFile.speaks.map _
  | tree rule => exact rule.speaks
  | whole rule => exact rule.whole_speaks

theorem Input.run_speaks {input : Input} (plain : input.Printable) (steps : List Step) :
    ∀ reply ∈ input.run steps, ∀ error, reply.1 = .error error → Plain error.fault.message := by
  induction steps generalizing input with
  | nil => simp [TokenStream.run]
  | cons step steps induction =>
      obtain ⟨left, -, message⟩ := step.speaks input plain
      intro reply member
      rcases List.mem_cons.mp member with rfl | member
      · exact message
      · exact induction left reply member

end Sierra
