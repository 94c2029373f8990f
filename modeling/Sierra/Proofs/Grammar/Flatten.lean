import Sierra.Proofs.Grammar.Rules

/-!
# Flattening trees

A tree keeps no keywords and no punctuation, but its form says where they stood. Flattening writes
them out again. What a tree is the value of is exactly its flattening, up to locations and up to the
characters of tokens that have only one spelling.
-/

namespace Sierra

set_option autoImplicit false

variable {α : Type}

/-- The kind of a token, and the characters of names and numbers. -/
structure Leaf where
  kind : Token.Kind
  text : String
  deriving DecidableEq, Repr

def Token.leaf (token : Token) : Leaf :=
  ⟨token.kind, if token.kind = .number ∨ token.kind = .identifier then token.lexeme else ""⟩

def leaves (tokens : List Token) : List Leaf :=
  tokens.map (·.leaf)

@[simp] theorem leaves_nil : leaves [] = [] := rfl

@[simp] theorem leaves_append (front back : List Token) :
    leaves (front ++ back) = leaves front ++ leaves back :=
  List.map_append ..

namespace Leaf

def keyword (word : Keyword) : Leaf :=
  ⟨.keyword word, ""⟩

def mark (mark : Mark) : Leaf :=
  ⟨.punctuation mark, ""⟩

end Leaf

def Identifier.flatten (identifier : Identifier) : List Leaf :=
  [⟨.identifier, identifier.name⟩]

def joined (mark : Mark) (flatten : α → List Leaf) : List α → List Leaf
  | [] => []
  | first :: others => flatten first ++ others.flatMap fun other => .mark mark :: flatten other

def QualifiedIdentifier.flatten (path : QualifiedIdentifier) : List Leaf :=
  joined .dot Identifier.flatten path.segments

def Expression.flatten : Expression → List Leaf
  | number text _ => [⟨.number, text⟩]
  | identifier name => name.flatten
  | range left right _ => left.flatten ++ .mark .dotDot :: right.flatten
  | arrayType base index element _ =>
      base.flatten ++ .mark .leftBracket :: index.flatten ++ .mark .rightBracket :: .keyword .of ::
        element.flatten

def Statement.flatten (statement : Statement) : List Leaf :=
  statement.expression.flatten ++
    statement.assignment.elim [] (fun value => .mark .colonEquals :: value.flatten) ++
    [.mark .semicolon]

def Block.flatten (block : Block) : List Leaf :=
  .keyword .beginBlock :: block.statements.flatMap Statement.flatten ++
    block.tail.elim [] Expression.flatten ++ [.keyword .endBlock]

def Mutability.flatten : Mutability → List Leaf
  | const => [.keyword .const]
  | mutable => [.keyword .mutable]

def Specifier.flatten : Specifier → List Leaf
  | named identifier => identifier.flatten
  | colon => [.mark .colon]

def Parameter.flatten (parameter : Parameter) : List Leaf :=
  parameter.mutability.elim [] Mutability.flatten ++ parameter.specifier.flatten ++ [.keyword .self]

def ParameterList.flatten (list : ParameterList) : List Leaf :=
  .mark .leftParen :: joined .comma Parameter.flatten list.parameters ++ [.mark .rightParen]

def Visibility.flatten : Visibility → List Leaf
  | publicAccess => [.keyword .publicAccess]
  | privateAccess => [.keyword .privateAccess]

def FunctionDefinition.flatten (definition : FunctionDefinition) : List Leaf :=
  definition.visibility.elim [] Visibility.flatten ++ .keyword .function ::
    definition.name.flatten ++ definition.parameters.elim [] ParameterList.flatten ++
    definition.returnType.elim [] (fun path => .mark .colon :: path.flatten) ++
    definition.body.flatten

def ImplementationBlock.flatten (block : ImplementationBlock) : List Leaf :=
  .keyword .implementation :: block.name.flatten ++
    block.functions.flatMap FunctionDefinition.flatten ++ [.keyword .endBlock]

def TypeDefinition.flatten (definition : TypeDefinition) : List Leaf :=
  .keyword .type :: definition.name.flatten ++ .mark .equals :: definition.value.flatten ++
    [.mark .semicolon]

def ProgramStatement.flatten (statement : ProgramStatement) : List Leaf :=
  .keyword .program :: statement.name.flatten ++ [.mark .semicolon]

def UseStatement.flatten (statement : UseStatement) : List Leaf :=
  .keyword .use :: statement.path.flatten ++ [.mark .semicolon]

def SyntaxUnit.flatten : SyntaxUnit → List Leaf
  | use statement => statement.flatten
  | program statement => statement.flatten
  | type definition => definition.flatten
  | implementation block => block.flatten

def Node.flatten : Node → List Leaf
  | sourceFile tree => tree.units.flatMap SyntaxUnit.flatten
  | syntaxUnit tree => tree.flatten
  | useStatement tree => tree.flatten
  | programStatement tree => tree.flatten
  | typeDefinition tree => tree.flatten
  | implementationBlock tree => tree.flatten
  | functionDefinition tree => tree.flatten
  | parameterList tree => tree.flatten
  | parameter tree => tree.flatten
  | block tree => tree.flatten
  | statement tree => tree.flatten
  | expression tree => tree.flatten
  | qualifiedIdentifier tree => tree.flatten

namespace Phrase

theorem leaves_of_one {kind : Token.Kind} {tokens : List Token} {token : Token}
    (fixed : kind ≠ .number ∧ kind ≠ .identifier) (derived : oneOf [kind] tokens token) :
    leaves tokens = [⟨kind, ""⟩] := by
  obtain ⟨rfl, single⟩ := derived
  obtain rfl : token.kind = kind := by simpa using single
  simp [leaves, Token.leaf, fixed]

theorem leaves_of_keyword {word : Keyword} {tokens : List Token} {token : Token}
    (derived : Phrase.keyword word tokens token) : leaves tokens = [.keyword word] :=
  leaves_of_one (by simp) derived

theorem leaves_of_mark {mark : Mark} {tokens : List Token} {token : Token}
    (derived : Phrase.mark mark tokens token) : leaves tokens = [.mark mark] :=
  leaves_of_one (by simp) derived

end Phrase

theorem Rule.rule_of_phrase {rule : Rule} {tokens : List Token} {node : Node}
    (derived : rule.phrase tokens node) : node.rule = rule := by
  cases rule <;> obtain ⟨tree, -, rfl⟩ := derived <;> rfl

end Sierra
