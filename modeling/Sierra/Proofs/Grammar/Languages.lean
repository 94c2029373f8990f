import Sierra.Proofs.Grammar.Combinators
import Sierra.Proofs.Grammar.Rules

/-!
# The languages of the rules

The grammar once more, as bare languages over kinds of tokens with no trees in them. The sentences
of the phrase of a rule are the language of the rule.
-/

namespace Sierra

set_option autoImplicit false

open scoped Computability

namespace Rule

def symbol (kind : Token.Kind) : Language Token.Kind := {[kind]}

abbrev word (keyword : Keyword) : Language Token.Kind := symbol (.keyword keyword)

abbrev mark (mark : Mark) : Language Token.Kind := symbol (.punctuation mark)

abbrev identifier : Language Token.Kind := symbol .identifier

def qualifiedIdentifierLanguage : Language Token.Kind :=
  identifier * (mark .dot * identifier)∗

def operandLanguage : Language Token.Kind :=
  symbol .number + (identifier +
    identifier * (mark .leftBracket * (identifier * mark .rightBracket * word .of * identifier)))

def expressionLanguage : Language Token.Kind :=
  operandLanguage * (mark .dotDot * operandLanguage)∗

def statementLanguage : Language Token.Kind :=
  expressionLanguage * (1 + mark .colonEquals * expressionLanguage) * mark .semicolon

def blockLanguage : Language Token.Kind :=
  word .beginBlock * (statementLanguage∗ * (1 + expressionLanguage)) * word .endBlock

def parameterLanguage : Language Token.Kind :=
  (1 + (word .const + word .mutable)) * (identifier + mark .colon) * word .self

def parameterListLanguage : Language Token.Kind :=
  mark .leftParen * parameterLanguage * (mark .comma * parameterLanguage)∗ * mark .rightParen

def functionDefinitionLanguage : Language Token.Kind :=
  (1 + (word .publicAccess + word .privateAccess)) * word .function * identifier *
    (1 + parameterListLanguage) * (1 + mark .colon * qualifiedIdentifierLanguage) * blockLanguage

def implementationBlockLanguage : Language Token.Kind :=
  word .implementation * identifier * functionDefinitionLanguage∗ * word .endBlock

def typeDefinitionLanguage : Language Token.Kind :=
  word .type * identifier * mark .equals * expressionLanguage * mark .semicolon

def programStatementLanguage : Language Token.Kind :=
  word .program * identifier * mark .semicolon

def useStatementLanguage : Language Token.Kind :=
  word .use * qualifiedIdentifierLanguage * mark .semicolon

def syntaxUnitLanguage : Language Token.Kind :=
  useStatementLanguage + (programStatementLanguage + (typeDefinitionLanguage +
    implementationBlockLanguage))

def language : Rule → Language Token.Kind
  | sourceFile => syntaxUnitLanguage∗
  | syntaxUnit => syntaxUnitLanguage
  | useStatement => useStatementLanguage
  | programStatement => programStatementLanguage
  | typeDefinition => typeDefinitionLanguage
  | implementationBlock => implementationBlockLanguage
  | functionDefinition => functionDefinitionLanguage
  | parameterList => parameterListLanguage
  | parameter => parameterLanguage
  | block => blockLanguage
  | statement => statementLanguage
  | expression => expressionLanguage
  | qualifiedIdentifier => qualifiedIdentifierLanguage

theorem sentences_symbol (kind : Token.Kind) :
    (Phrase.oneOf [kind]).sentences = symbol kind := by
  apply Language.ext
  intro word
  rw [Phrase.mem_sentences_one_of]
  simp only [List.mem_singleton, exists_eq_left]
  rfl

theorem nil_not_mem_symbol (kind : Token.Kind) : [] ∉ symbol kind := by
  intro sentence
  have same : [] = [kind] := sentence
  simp at same

theorem nil_not_mem_mul {first second : Language Token.Kind} (solid : [] ∉ second) :
    [] ∉ first * second := by
  intro sentence
  obtain ⟨front, -, back, member, same⟩ := Language.mem_mul.mp sentence
  obtain ⟨-, rfl⟩ := List.append_eq_nil_iff.mp same
  exact solid member

theorem nil_not_mem_block : [] ∉ blockLanguage :=
  nil_not_mem_mul (nil_not_mem_symbol _)

end Rule

open Rule Phrase

theorem QualifiedIdentifier.sentences_eq :
    QualifiedIdentifier.phrase.sentences = qualifiedIdentifierLanguage := by
  simp only [QualifiedIdentifier.phrase, Identifier.phrase, sentences_seq, sentences_map,
    sentences_many, sentences_behind, sentences_symbol, qualifiedIdentifierLanguage]

theorem Expression.sentences_eq : Expression.phrase.sentences = expressionLanguage := by
  simp only [Expression.phrase, operandPhrase, arrayPhrase, Identifier.phrase, sentences_seq,
    sentences_map, sentences_either, sentences_many, sentences_behind, sentences_symbol,
    expressionLanguage, operandLanguage]

theorem Statement.sentences_eq : Statement.phrase.sentences = statementLanguage := by
  simp only [Statement.phrase, sentences_seq, sentences_map, sentences_optional, sentences_behind,
    sentences_symbol, Expression.sentences_eq, statementLanguage]

theorem Block.sentences_eq : Block.phrase.sentences = blockLanguage := by
  simp only [Block.phrase, partsPhrase, sentences_seq, sentences_map, sentences_many,
    sentences_optional, sentences_symbol, Statement.sentences_eq, Expression.sentences_eq,
    blockLanguage]

theorem Parameter.sentences_eq : Parameter.phrase.sentences = parameterLanguage := by
  have inside : Phrase.sentences
      ((fun mutability specifier _ location => Parameter.mk mutability specifier location) <$>
        Mutability.phrase.optional <*> Specifier.phrase <*> keyword .self) = parameterLanguage := by
    simp only [Mutability.phrase, Specifier.phrase, Identifier.phrase, sentences_seq, sentences_map,
      sentences_either, sentences_optional, sentences_symbol, parameterLanguage]
  rw [Parameter.phrase, sentences_located, inside]
  exact inside ▸ nil_not_mem_mul (nil_not_mem_symbol _)

theorem ParameterList.sentences_eq : ParameterList.phrase.sentences = parameterListLanguage := by
  simp only [ParameterList.phrase, sentences_seq, sentences_map, sentences_many, sentences_behind,
    sentences_symbol, Parameter.sentences_eq, parameterListLanguage]

theorem FunctionDefinition.sentences_eq :
    FunctionDefinition.phrase.sentences = functionDefinitionLanguage := by
  have inside : Phrase.sentences ((fun visibility _ name parameters returnType body location =>
      FunctionDefinition.mk visibility name parameters returnType body location) <$>
      Visibility.phrase.optional <*> keyword .function <*> Identifier.phrase <*>
        ParameterList.phrase.optional <*>
        (QualifiedIdentifier.phrase.behind (.punctuation .colon)).optional <*> Block.phrase) =
      functionDefinitionLanguage := by
    simp only [Visibility.phrase, Identifier.phrase, sentences_seq, sentences_map, sentences_either,
      sentences_optional, sentences_behind, sentences_symbol, ParameterList.sentences_eq,
      QualifiedIdentifier.sentences_eq, Block.sentences_eq, functionDefinitionLanguage]
  rw [FunctionDefinition.phrase, sentences_located, inside]
  exact inside ▸ nil_not_mem_mul nil_not_mem_block

theorem ImplementationBlock.sentences_eq :
    ImplementationBlock.phrase.sentences = implementationBlockLanguage := by
  simp only [ImplementationBlock.phrase, Identifier.phrase, sentences_seq, sentences_map,
    sentences_many, sentences_symbol, FunctionDefinition.sentences_eq, implementationBlockLanguage]

theorem TypeDefinition.sentences_eq :
    TypeDefinition.phrase.sentences = typeDefinitionLanguage := by
  simp only [TypeDefinition.phrase, Identifier.phrase, sentences_seq, sentences_map,
    sentences_symbol, Expression.sentences_eq, typeDefinitionLanguage]

theorem ProgramStatement.sentences_eq :
    ProgramStatement.phrase.sentences = programStatementLanguage := by
  simp only [ProgramStatement.phrase, Identifier.phrase, sentences_seq, sentences_map,
    sentences_symbol, programStatementLanguage]

theorem UseStatement.sentences_eq : UseStatement.phrase.sentences = useStatementLanguage := by
  simp only [UseStatement.phrase, sentences_seq, sentences_map, sentences_symbol,
    QualifiedIdentifier.sentences_eq, useStatementLanguage]

theorem SyntaxUnit.sentences_eq : SyntaxUnit.phrase.sentences = syntaxUnitLanguage := by
  simp only [SyntaxUnit.phrase, sentences_either, sentences_map, UseStatement.sentences_eq,
    ProgramStatement.sentences_eq, TypeDefinition.sentences_eq, ImplementationBlock.sentences_eq,
    syntaxUnitLanguage]

theorem Rule.sentences_eq (rule : Rule) : rule.phrase.sentences = rule.language := by
  cases rule with
  | sourceFile =>
      simp only [Rule.phrase, SourceFile.phrase, sentences_map, sentences_many,
        SyntaxUnit.sentences_eq, Rule.language]
  | syntaxUnit => exact (sentences_map _ _).trans SyntaxUnit.sentences_eq
  | useStatement => exact (sentences_map _ _).trans UseStatement.sentences_eq
  | programStatement => exact (sentences_map _ _).trans ProgramStatement.sentences_eq
  | typeDefinition => exact (sentences_map _ _).trans TypeDefinition.sentences_eq
  | implementationBlock => exact (sentences_map _ _).trans ImplementationBlock.sentences_eq
  | functionDefinition => exact (sentences_map _ _).trans FunctionDefinition.sentences_eq
  | parameterList => exact (sentences_map _ _).trans ParameterList.sentences_eq
  | parameter => exact (sentences_map _ _).trans Parameter.sentences_eq
  | block => exact (sentences_map _ _).trans Block.sentences_eq
  | statement => exact (sentences_map _ _).trans Statement.sentences_eq
  | expression => exact (sentences_map _ _).trans Expression.sentences_eq
  | qualifiedIdentifier => exact (sentences_map _ _).trans QualifiedIdentifier.sentences_eq

end Sierra
