import Sierra.Proofs.Grammar.Phrase
import Sierra.Tree

/-!
# The phrases of the grammar

One phrase for each rule, written as the rule is. What a run of tokens derives is a tree with its
locations, so each phrase also says which token gives a node its location.
-/

namespace Sierra

set_option autoImplicit false

open Phrase

abbrev Phrase.keyword (word : Keyword) : Phrase Token :=
  oneOf [.keyword word]

abbrev Phrase.mark (mark : Mark) : Phrase Token :=
  oneOf [.punctuation mark]

def Identifier.ofToken (token : Token) : Identifier :=
  ⟨token.lexeme, token.location⟩

def Identifier.phrase : Phrase Identifier :=
  ofToken <$> oneOf [.identifier]

def QualifiedIdentifier.phrase : Phrase QualifiedIdentifier :=
  (fun first others => ⟨first :: others⟩) <$>
    Identifier.phrase <*> (Identifier.phrase.behind (.punctuation .dot)).many

def Expression.arrayPhrase : Phrase (Identifier × Identifier) :=
  behind (.punctuation .leftBracket) <|
    (fun index _ _ element => (index, element)) <$>
      Identifier.phrase <*> mark .rightBracket <*> keyword .of <*> Identifier.phrase

def Expression.operandPhrase : Phrase Expression :=
  (fun token => .number token.lexeme token.location) <$> oneOf [.number] <|>
    Expression.identifier <$> Identifier.phrase <|>
    (fun base array => .arrayType base array.1 array.2 base.location) <$>
      Identifier.phrase <*> arrayPhrase

def Expression.phrase : Phrase Expression :=
  (fun first others => others.foldl (fun left right => .range left right left.location) first) <$>
    operandPhrase <*> (operandPhrase.behind (.punctuation .dotDot)).many

def Statement.phrase : Phrase Statement :=
  (fun expression assignment _ => ⟨expression, assignment, expression.location⟩) <$>
    Expression.phrase <*> (Expression.phrase.behind (.punctuation .colonEquals)).optional <*>
      mark .semicolon

def Block.partsPhrase : Phrase (List Statement × Option Expression) :=
  Prod.mk <$> Statement.phrase.many <*> Expression.phrase.optional

def Block.phrase : Phrase Block :=
  (fun opening parts _ => ⟨parts.1, parts.2, opening.location⟩) <$>
    keyword .beginBlock <*> partsPhrase <*> keyword .endBlock

def Mutability.phrase : Phrase Mutability :=
  (fun _ => .const) <$> keyword .const <|> (fun _ => .mutable) <$> keyword .mutable

def Specifier.phrase : Phrase Specifier :=
  .named <$> Identifier.phrase <|> (fun _ => .colon) <$> mark .colon

def Parameter.phrase : Phrase Parameter :=
  located <| (fun mutability specifier _ location => ⟨mutability, specifier, location⟩) <$>
    Mutability.phrase.optional <*> Specifier.phrase <*> keyword .self

def ParameterList.phrase : Phrase ParameterList :=
  (fun opening first others _ => ⟨first :: others, opening.location⟩) <$>
    mark .leftParen <*> Parameter.phrase <*>
      (Parameter.phrase.behind (.punctuation .comma)).many <*> mark .rightParen

def Visibility.phrase : Phrase Visibility :=
  (fun _ => .publicAccess) <$> keyword .publicAccess <|>
    (fun _ => .privateAccess) <$> keyword .privateAccess

def FunctionDefinition.phrase : Phrase FunctionDefinition :=
  located <| (fun visibility _ name parameters returnType body location =>
      ⟨visibility, name, parameters, returnType, body, location⟩) <$>
    Visibility.phrase.optional <*> keyword .function <*> Identifier.phrase <*>
      ParameterList.phrase.optional <*>
      (QualifiedIdentifier.phrase.behind (.punctuation .colon)).optional <*> Block.phrase

def ImplementationBlock.phrase : Phrase ImplementationBlock :=
  (fun opening name functions _ => ⟨name, functions, opening.location⟩) <$>
    keyword .implementation <*> Identifier.phrase <*> FunctionDefinition.phrase.many <*>
      keyword .endBlock

def TypeDefinition.phrase : Phrase TypeDefinition :=
  (fun opening name _ value _ => ⟨name, value, opening.location⟩) <$>
    keyword .type <*> Identifier.phrase <*> mark .equals <*> Expression.phrase <*> mark .semicolon

def ProgramStatement.phrase : Phrase ProgramStatement :=
  (fun opening name _ => ⟨name, opening.location⟩) <$>
    keyword .program <*> Identifier.phrase <*> mark .semicolon

def UseStatement.phrase : Phrase UseStatement :=
  (fun opening path _ => ⟨path, opening.location⟩) <$>
    keyword .use <*> QualifiedIdentifier.phrase <*> mark .semicolon

def SyntaxUnit.phrase : Phrase SyntaxUnit :=
  .use <$> UseStatement.phrase <|> .program <$> ProgramStatement.phrase <|>
    .type <$> TypeDefinition.phrase <|> .implementation <$> ImplementationBlock.phrase

def SourceFile.phrase : Phrase SourceFile :=
  SourceFile.mk <$> SyntaxUnit.phrase.many

namespace Rule

def phrase : Rule → Phrase Node
  | sourceFile => .sourceFile <$> SourceFile.phrase
  | syntaxUnit => .syntaxUnit <$> SyntaxUnit.phrase
  | useStatement => .useStatement <$> UseStatement.phrase
  | programStatement => .programStatement <$> ProgramStatement.phrase
  | typeDefinition => .typeDefinition <$> TypeDefinition.phrase
  | implementationBlock => .implementationBlock <$> ImplementationBlock.phrase
  | functionDefinition => .functionDefinition <$> FunctionDefinition.phrase
  | parameterList => .parameterList <$> ParameterList.phrase
  | parameter => .parameter <$> Parameter.phrase
  | block => .block <$> Block.phrase
  | statement => .statement <$> Statement.phrase
  | expression => .expression <$> Expression.phrase
  | qualifiedIdentifier => .qualifiedIdentifier <$> QualifiedIdentifier.phrase

end Rule

end Sierra
