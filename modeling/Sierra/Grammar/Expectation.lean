import Sierra.Error
import Sierra.Token

/-!
# What the grammar wants at a place

An expectation is a place in the grammar at which only certain tokens can stand. It knows those
tokens, the rule that the place belongs to and its wording, and so makes the error for a token that
cannot stand there. Such an error says that the text is incomplete when the text is over or when the
missing token is one that closes something, and that the token is misplaced otherwise.

A refusal is a form that the grammar rules out by name, with a wording of its own.
-/

namespace Sierra

set_option autoImplicit false

inductive Expectation where
  | unitOpening
  | useOpening
  | useClosing
  | programOpening
  | programName
  | programClosing
  | typeOpening
  | typeName
  | typeEquals
  | typeClosing
  | implementationOpening
  | implementationName
  | implementationClosing
  | functionOpening
  | functionName
  | parametersOpening
  | parametersClosing
  | parameterSpecifier
  | parameterClosing
  | blockOpening
  | blockClosing
  | statementClosing
  | operand
  | arrayIndex
  | arrayIndexClosing
  | arrayOf
  | arrayElement
  | pathStart
  | pathSegment
  deriving DecidableEq, Repr

namespace Expectation

def kinds : Expectation → List Token.Kind
  | unitOpening =>
      [.keyword .use, .keyword .program, .keyword .type, .keyword .implementation]
  | useOpening => [.keyword .use]
  | programOpening => [.keyword .program]
  | typeOpening => [.keyword .type]
  | implementationOpening => [.keyword .implementation]
  | functionOpening => [.keyword .function]
  | blockOpening => [.keyword .beginBlock]
  | implementationClosing | blockClosing => [.keyword .endBlock]
  | parameterClosing => [.keyword .self]
  | arrayOf => [.keyword .of]
  | parametersOpening => [.punctuation .leftParen]
  | parametersClosing => [.punctuation .rightParen]
  | arrayIndexClosing => [.punctuation .rightBracket]
  | typeEquals => [.punctuation .equals]
  | useClosing | programClosing | typeClosing | statementClosing => [.punctuation .semicolon]
  | parameterSpecifier => [.identifier, .punctuation .colon]
  | operand => [.number, .identifier]
  | programName | typeName | implementationName | functionName | arrayIndex | arrayElement
  | pathStart | pathSegment => [.identifier]

def rule : Expectation → Rule
  | unitOpening => .syntaxUnit
  | useOpening | useClosing => .useStatement
  | programOpening | programName | programClosing => .programStatement
  | typeOpening | typeName | typeEquals | typeClosing => .typeDefinition
  | implementationOpening | implementationName | implementationClosing => .implementationBlock
  | functionOpening | functionName => .functionDefinition
  | parametersOpening | parametersClosing => .parameterList
  | parameterSpecifier | parameterClosing => .parameter
  | blockOpening | blockClosing => .block
  | statementClosing => .statement
  | operand | arrayIndex | arrayIndexClosing | arrayOf | arrayElement => .expression
  | pathStart | pathSegment => .qualifiedIdentifier

def wording : Expectation → String
  | unitOpening => "Expected 'use', 'program', 'type' or 'implementation'"
  | useOpening => "Expected 'use'"
  | useClosing => "Expected ';' after use path"
  | programOpening => "Expected 'program'"
  | programName => "Expected program name"
  | programClosing => "Expected ';' after program name"
  | typeOpening => "Expected 'type'"
  | typeName => "Expected type name"
  | typeEquals => "Expected '=' after type name"
  | typeClosing => "Expected ';' after type definition"
  | implementationOpening => "Expected 'implementation'"
  | implementationName => "Expected implementation name"
  | implementationClosing => "Expected 'end' to close implementation block"
  | functionOpening => "Expected 'function'"
  | functionName => "Expected function name"
  | parametersOpening => "Expected '('"
  | parametersClosing => "Expected ')' after parameters"
  | parameterSpecifier => "Expected parameter name or ':'"
  | parameterClosing => "Expected 'self' to close parameter"
  | blockOpening => "Expected 'begin'"
  | blockClosing => "Expected 'end' to close block"
  | statementClosing => "Expected ';' after statement"
  | operand => "Expected expression"
  | arrayIndex => "Expected index name after '['"
  | arrayIndexClosing => "Expected ']' after index name"
  | arrayOf => "Expected 'of' after ']'"
  | arrayElement => "Expected element type after 'of'"
  | pathStart => "Expected identifier"
  | pathSegment => "Expected identifier after '.'"

/-- Whether a token that is missing at the place leaves incomplete what was begun before it. -/
def closes : Expectation → Bool
  | useClosing | programClosing | typeClosing | implementationClosing | parametersClosing
  | parameterClosing | blockClosing | statementClosing | arrayIndexClosing => true
  | unitOpening | useOpening | programOpening | programName | typeOpening | typeName | typeEquals
  | implementationOpening | implementationName | functionOpening | functionName
  | parametersOpening | parameterSpecifier | blockOpening | operand | arrayIndex | arrayOf
  | arrayElement | pathStart | pathSegment => false

/-- These are the places at which a token is wanted that closes something. -/
theorem closes_eq (wanted : Expectation) : wanted.closes = wanted.kinds.any (·.closes) := by
  cases wanted <;> decide

def error (wanted : Expectation) (found : Token) : Error :=
  let message := wanted.wording ++ ", found " ++ found.describe
  if found.kind = .endOfInput ∨ wanted.closes then
    ⟨.incomplete message wanted.rule, found.location⟩
  else
    ⟨.misplaced message wanted.rule, found.location⟩

end Expectation

inductive Refusal where
  /-- A pair of parentheses with nothing between. -/
  | emptyParameterList
  /-- A colon behind the name of a parameter. -/
  | typedParameter (name : String)
  /-- A name behind the colon of a parameter. -/
  | namedType
  /-- A parameter that is only `self`. -/
  | bareSelf
  /-- A token behind a tree that should have been the whole text. -/
  | trailing (rule : Rule)
  deriving DecidableEq, Repr

namespace Refusal

def fault (refusal : Refusal) (found : Token) : Fault :=
  match refusal with
  | emptyParameterList =>
      .incomplete "Parameter list requires at least one parameter" .parameterList
  | typedParameter name =>
      .invalidParameter ("Typed parameter '" ++ name ++ " : <type> self' is not supported; " ++
        "a parameter is either '" ++ name ++ " self' or ': self'")
  | namedType =>
      .invalidParameter
        ("Type name '" ++ found.lexeme ++ "' after ':' is not supported; expected ': self'")
  | bareSelf => .invalidParameter "Expected parameter name or ':' before 'self'"
  | trailing rule =>
      .misplaced ("Unexpected " ++ found.describe ++ " after " ++ rule.name) rule

def error (refusal : Refusal) (found : Token) : Error :=
  ⟨refusal.fault found, found.location⟩

end Refusal

end Sierra
