import Sierra.Tree

/-!
# The text of a tree

Every node is written as its kind and, in parentheses, its parts. Lists stand in brackets, an absent
part is an underscore, and locations are not written. A unit of a file is written as the statement
that it is.
-/

namespace Sierra

set_option autoImplicit false

def bracketed (items : List String) : String :=
  "[" ++ String.intercalate ", " items ++ "]"

def orAbsent (part : Option String) : String :=
  part.getD "_"

namespace Expression

/-- The pieces of the text, between the pieces in front of it, the last one first, and those behind
it. All openings of a chain come in front of its innermost operand, and each right operand with its
closing parenthesis behind. -/
def piecesBetween (front back : List String) : Expression → List String
  | range left right _ =>
      piecesBetween ("Range(" :: front) (", " :: piecesBetween [] (")" :: back) right) left
  | number text _ => front.reverseAux (("NumberLiteral(" ++ text ++ ")") :: back)
  | identifier name => front.reverseAux (("Identifier(" ++ name.name ++ ")") :: back)
  | arrayType base index element _ =>
      front.reverseAux
        (("ArrayTypeExpr(" ++ base.name ++ ", " ++ index.name ++ ", " ++ element.name ++ ")") ::
          back)

def text (expression : Expression) : String :=
  String.join (piecesBetween [] [] expression)

end Expression

def QualifiedIdentifier.text (path : QualifiedIdentifier) : String :=
  "QualifiedIdentifier(" ++ bracketed path.names ++ ")"

def Statement.text (statement : Statement) : String :=
  "Statement(" ++ statement.expression.text ++ ", " ++
    orAbsent (statement.assignment.map (·.text)) ++ ")"

def Block.text (block : Block) : String :=
  "Block(" ++ bracketed (block.statements.map (·.text)) ++ ", " ++
    orAbsent (block.tail.map (·.text)) ++ ")"

def Mutability.text : Mutability → String
  | const => "const"
  | mutable => "mutable"

def Specifier.text : Specifier → String
  | named identifier => identifier.name
  | colon => ":"

def Parameter.text (parameter : Parameter) : String :=
  "Parameter(" ++ orAbsent (parameter.mutability.map (·.text)) ++ ", " ++
    parameter.specifier.text ++ ")"

def ParameterList.text (list : ParameterList) : String :=
  "ParameterList(" ++ bracketed (list.parameters.map (·.text)) ++ ")"

def Visibility.text : Visibility → String
  | publicAccess => "public"
  | privateAccess => "private"

def FunctionDefinition.text (definition : FunctionDefinition) : String :=
  "FunctionDefinition(" ++ orAbsent (definition.visibility.map (·.text)) ++ ", " ++
    definition.name.name ++ ", " ++ orAbsent (definition.parameters.map (·.text)) ++ ", " ++
    orAbsent (definition.returnType.map (·.text)) ++ ", " ++ definition.body.text ++ ")"

def ImplementationBlock.text (block : ImplementationBlock) : String :=
  "ImplementationBlock(" ++ block.name.name ++ ", " ++
    bracketed (block.functions.map (·.text)) ++ ")"

def TypeDefinition.text (definition : TypeDefinition) : String :=
  "TypeDefinition(" ++ definition.name.name ++ ", " ++ definition.value.text ++ ")"

def ProgramStatement.text (statement : ProgramStatement) : String :=
  "ProgramStatement(" ++ statement.name.name ++ ")"

def UseStatement.text (statement : UseStatement) : String :=
  "UseStatement(" ++ statement.path.text ++ ")"

def SyntaxUnit.text : SyntaxUnit → String
  | use statement => statement.text
  | program statement => statement.text
  | type definition => definition.text
  | implementation block => block.text

def SourceFile.text (file : SourceFile) : String :=
  "SourceFile(" ++ bracketed (file.units.map (·.text)) ++ ")"

def Node.text : Node → String
  | sourceFile file => file.text
  | syntaxUnit member => member.text
  | useStatement used => used.text
  | programStatement named => named.text
  | typeDefinition defined => defined.text
  | implementationBlock members => members.text
  | functionDefinition defined => defined.text
  | parameterList list => list.text
  | parameter single => single.text
  | block body => body.text
  | statement single => single.text
  | expression value => value.text
  | qualifiedIdentifier path => path.text

end Sierra
