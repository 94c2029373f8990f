import Sierra.Grammar.Rule
import Sierra.Tree.Expression

/-!
# Syntax trees

One type for each rule of the grammar. A node keeps the location of its first token and the parts
that a reader needs; keywords and punctuation are gone. `Node` is a tree of any rule.
-/

namespace Sierra

set_option autoImplicit false

structure QualifiedIdentifier where
  segments : List Identifier
  deriving DecidableEq, Repr

def QualifiedIdentifier.names (path : QualifiedIdentifier) : List String :=
  path.segments.map (·.name)

/-- An expression, or an assignment to it. -/
structure Statement where
  expression : Expression
  assignment : Option Expression
  location : Location
  deriving DecidableEq, Repr

/-- Statements, and behind them an expression that gives the block its value, if there is one. -/
structure Block where
  statements : List Statement
  tail : Option Expression
  location : Location
  deriving DecidableEq, Repr

def Block.isEmpty (block : Block) : Bool :=
  block.statements.isEmpty && block.tail.isNone

inductive Mutability where
  | const
  | mutable
  deriving DecidableEq, Repr

/-- What stands in front of the `self` of a parameter. -/
inductive Specifier where
  | named (identifier : Identifier)
  | colon
  deriving DecidableEq, Repr

structure Parameter where
  mutability : Option Mutability
  specifier : Specifier
  location : Location
  deriving DecidableEq, Repr

structure ParameterList where
  parameters : List Parameter
  location : Location
  deriving DecidableEq, Repr

inductive Visibility where
  | publicAccess
  | privateAccess
  deriving DecidableEq, Repr

structure FunctionDefinition where
  visibility : Option Visibility
  name : Identifier
  /-- Absent when the function has no parentheses. -/
  parameters : Option ParameterList
  returnType : Option QualifiedIdentifier
  body : Block
  location : Location
  deriving DecidableEq, Repr

structure ImplementationBlock where
  name : Identifier
  functions : List FunctionDefinition
  location : Location
  deriving DecidableEq, Repr

structure TypeDefinition where
  name : Identifier
  value : Expression
  location : Location
  deriving DecidableEq, Repr

structure ProgramStatement where
  name : Identifier
  location : Location
  deriving DecidableEq, Repr

structure UseStatement where
  path : QualifiedIdentifier
  location : Location
  deriving DecidableEq, Repr

inductive SyntaxUnit where
  | use (statement : UseStatement)
  | program (statement : ProgramStatement)
  | type (definition : TypeDefinition)
  | implementation (block : ImplementationBlock)
  deriving DecidableEq, Repr

def SyntaxUnit.location : SyntaxUnit → Location
  | use statement => statement.location
  | program statement => statement.location
  | type definition => definition.location
  | implementation block => block.location

structure SourceFile where
  units : List SyntaxUnit
  deriving DecidableEq, Repr

inductive Node where
  | sourceFile (file : SourceFile)
  | syntaxUnit (unit : SyntaxUnit)
  | useStatement (statement : UseStatement)
  | programStatement (statement : ProgramStatement)
  | typeDefinition (definition : TypeDefinition)
  | implementationBlock (block : ImplementationBlock)
  | functionDefinition (definition : FunctionDefinition)
  | parameterList (list : ParameterList)
  | parameter (parameter : Parameter)
  | block (block : Block)
  | statement (statement : Statement)
  | expression (expression : Expression)
  | qualifiedIdentifier (path : QualifiedIdentifier)
  deriving DecidableEq, Repr

def Node.rule : Node → Rule
  | sourceFile _ => .sourceFile
  | syntaxUnit _ => .syntaxUnit
  | useStatement _ => .useStatement
  | programStatement _ => .programStatement
  | typeDefinition _ => .typeDefinition
  | implementationBlock _ => .implementationBlock
  | functionDefinition _ => .functionDefinition
  | parameterList _ => .parameterList
  | parameter _ => .parameter
  | block _ => .block
  | statement _ => .statement
  | expression _ => .expression
  | qualifiedIdentifier _ => .qualifiedIdentifier

end Sierra
