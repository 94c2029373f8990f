import Sierra.Grammar.Parser
import Sierra.Tree

/-!
# Reading trees

One parser for each rule, by recursive descent with one token of lookahead. No rule contains itself,
so the parsers are ordered from the smallest part to the file and every repetition is a loop.
-/

namespace Sierra

set_option autoImplicit false

open Sierra.Parser

variable {σ : Type} [TokenStream σ]

def Identifier.read (wanted : Expectation) : Parser σ Identifier := do
  let token ← expect wanted
  return ⟨token.lexeme, token.location⟩

/-- Reads `NAME ('.' NAME)*`. -/
def QualifiedIdentifier.read : Parser σ QualifiedIdentifier := do
  let first ← Identifier.read .pathStart
  let others ← manyWhile (· = .punctuation .dot) do
    advance
    Identifier.read .pathSegment
  return ⟨first :: others⟩

/-- Reads `'[' NAME ']' 'of' NAME`, the part of an array type behind its base. -/
def Expression.readArray : Parser σ (Identifier × Identifier) := do
  advance
  let index ← Identifier.read .arrayIndex
  let _ ← expect .arrayIndexClosing
  let _ ← expect .arrayOf
  let element ← Identifier.read .arrayElement
  return (index, element)

/-- Reads `NUMBER | NAME | NAME '[' NAME ']' 'of' NAME`. -/
def Expression.readOperand : Parser σ Expression := do
  let token ← expect .operand
  if token.kind = .number then
    return .number token.lexeme token.location
  else
    let base : Identifier := ⟨token.lexeme, token.location⟩
    match ← readIf (.punctuation .leftBracket) readArray with
    | some (index, element) => return .arrayType base index element base.location
    | none => return .identifier base

/-- Reads `'..' operand` behind the left operand of a range. -/
def Expression.readRange (left : Expression) : Parser σ Expression := do
  advance
  let right ← readOperand
  return .range left right left.location

/-- Reads `operand ('..' operand)*`, associated to the left. -/
def Expression.read : Parser σ Expression := do
  let first ← readOperand
  repeatWhile (· = .punctuation .dotDot) readRange first

/-- Reads `[':=' expression] ';'` behind the first expression of a statement. -/
def Statement.readBehind (expression : Expression) : Parser σ Statement := do
  let assignment ← readIf (.punctuation .colonEquals) do
    advance
    Expression.read
  let _ ← expect .statementClosing
  return ⟨expression, assignment, expression.location⟩

/-- Reads `expression [':=' expression] ';'`. -/
def Statement.read : Parser σ Statement := do
  let expression ← Expression.read
  Statement.readBehind expression

/-- One round of a block: an expression directly in front of `end` is the tail, and any other begins
a statement. The statements read so far come latest first. -/
def Block.readPart (parts : List Statement × Option Expression) :
    Parser σ (List Statement × Option Expression) := do
  let expression ← Expression.read
  let found ← next
  if found.kind = .keyword .endBlock then
    return (parts.1, some expression)
  else
    let statement ← Statement.readBehind expression
    return (statement :: parts.1, none)

/-- Reads `'begin' statement* [expression] 'end'`. -/
def Block.read : Parser σ Block := do
  let opening ← expect .blockOpening
  let parts ← repeatWhile (· ≠ .keyword .endBlock) readPart ([], none)
  let _ ← expect .blockClosing
  return ⟨parts.1.reverse, parts.2, opening.location⟩

def Mutability.read? : Parser σ (Option Mutability) := do
  let found ← next
  match found.kind with
  | .keyword .const => do advance; return some .const
  | .keyword .mutable => do advance; return some .mutable
  | _ => return none

/-- Reads `NAME | ':'`. The forms that would give a parameter a type or no name are refused. -/
def Specifier.read : Parser σ Specifier := do
  refuse (.keyword .self) .bareSelf
  let token ← expect .parameterSpecifier
  if token.kind = .identifier then
    refuse (.punctuation .colon) (.typedParameter token.lexeme)
    return .named ⟨token.lexeme, token.location⟩
  else
    refuse .identifier .namedType
    return .colon

/-- Reads `['const' | 'mutable'] (NAME | ':') 'self'`. -/
def Parameter.read : Parser σ Parameter := do
  let opening ← next
  let mutability ← Mutability.read?
  let specifier ← Specifier.read
  let _ ← expect .parameterClosing
  return ⟨mutability, specifier, opening.location⟩

/-- Reads `'(' parameter (',' parameter)* ')'`. -/
def ParameterList.read : Parser σ ParameterList := do
  let opening ← expect .parametersOpening
  refuse (.punctuation .rightParen) .emptyParameterList
  let first ← Parameter.read
  let others ← manyWhile (· = .punctuation .comma) do
    advance
    Parameter.read
  let _ ← expect .parametersClosing
  return ⟨first :: others, opening.location⟩

def Visibility.read? : Parser σ (Option Visibility) := do
  let found ← next
  match found.kind with
  | .keyword .publicAccess => do advance; return some .publicAccess
  | .keyword .privateAccess => do advance; return some .privateAccess
  | _ => return none

/-- Reads `['public' | 'private'] 'function' NAME [parameter_list] [':' qualified_identifier]`
and a block. -/
def FunctionDefinition.read : Parser σ FunctionDefinition := do
  let opening ← next
  let visibility ← Visibility.read?
  let _ ← expect .functionOpening
  let name ← Identifier.read .functionName
  let parameters ← readIf (.punctuation .leftParen) ParameterList.read
  let returnType ← readIf (.punctuation .colon) do
    advance
    QualifiedIdentifier.read
  let body ← Block.read
  return ⟨visibility, name, parameters, returnType, body, opening.location⟩

/-- Reads `'implementation' NAME function_definition* 'end'`. -/
def ImplementationBlock.read : Parser σ ImplementationBlock := do
  let opening ← expect .implementationOpening
  let name ← Identifier.read .implementationName
  let functions ← manyWhile (· ≠ .keyword .endBlock) FunctionDefinition.read
  let _ ← expect .implementationClosing
  return ⟨name, functions, opening.location⟩

/-- Reads `'type' NAME '=' expression ';'`. -/
def TypeDefinition.read : Parser σ TypeDefinition := do
  let opening ← expect .typeOpening
  let name ← Identifier.read .typeName
  let _ ← expect .typeEquals
  let value ← Expression.read
  let _ ← expect .typeClosing
  return ⟨name, value, opening.location⟩

/-- Reads `'program' NAME ';'`. -/
def ProgramStatement.read : Parser σ ProgramStatement := do
  let opening ← expect .programOpening
  let name ← Identifier.read .programName
  let _ ← expect .programClosing
  return ⟨name, opening.location⟩

/-- Reads `'use' qualified_identifier ';'`. -/
def UseStatement.read : Parser σ UseStatement := do
  let opening ← expect .useOpening
  let path ← QualifiedIdentifier.read
  let _ ← expect .useClosing
  return ⟨path, opening.location⟩

/-- The four units begin with different keywords. -/
def SyntaxUnit.read : Parser σ SyntaxUnit := do
  let found ← next
  match found.kind with
  | .keyword .use => .use <$> UseStatement.read
  | .keyword .program => .program <$> ProgramStatement.read
  | .keyword .type => .type <$> TypeDefinition.read
  | .keyword .implementation => .implementation <$> ImplementationBlock.read
  | _ => fail (Expectation.unitOpening.error found)

/-- Reads `syntax_unit*` up to the end of input. -/
def SourceFile.read : Parser σ SourceFile := do
  let units ← manyWhile (fun _ => true) SyntaxUnit.read
  return ⟨units⟩

def Rule.read : Rule → Parser σ Node
  | sourceFile => .sourceFile <$> SourceFile.read
  | syntaxUnit => .syntaxUnit <$> SyntaxUnit.read
  | useStatement => .useStatement <$> UseStatement.read
  | programStatement => .programStatement <$> ProgramStatement.read
  | typeDefinition => .typeDefinition <$> TypeDefinition.read
  | implementationBlock => .implementationBlock <$> ImplementationBlock.read
  | functionDefinition => .functionDefinition <$> FunctionDefinition.read
  | parameterList => .parameterList <$> ParameterList.read
  | parameter => .parameter <$> Parameter.read
  | block => .block <$> Block.read
  | statement => .statement <$> Statement.read
  | expression => .expression <$> Expression.read
  | qualifiedIdentifier => .qualifiedIdentifier <$> QualifiedIdentifier.read

/-- A tree of the rule that is all of the input. -/
def Rule.readWhole (rule : Rule) : Parser σ Node := do
  let node ← rule.read
  let found ← next
  if found.kind = .endOfInput then
    return node
  else
    fail ((Refusal.trailing rule).error found)

end Sierra
