/-!
# The rules of the grammar

Thirteen nonterminals, each with the name by which messages and the command line know it.
-/

namespace Sierra

set_option autoImplicit false

inductive Rule where
  | sourceFile
  | syntaxUnit
  | useStatement
  | programStatement
  | typeDefinition
  | implementationBlock
  | functionDefinition
  | parameterList
  | parameter
  | block
  | statement
  | expression
  | qualifiedIdentifier
  deriving DecidableEq, Repr

namespace Rule

/-- From the whole file down to its smallest parts, the order in which the rules are listed. -/
def all : List Rule :=
  [.sourceFile, .syntaxUnit, .useStatement, .programStatement, .typeDefinition,
    .implementationBlock, .functionDefinition, .parameterList, .parameter, .block, .statement,
    .expression, .qualifiedIdentifier]

def name : Rule → String
  | sourceFile => "source_file"
  | syntaxUnit => "syntax_unit"
  | useStatement => "use_statement"
  | programStatement => "program_statement"
  | typeDefinition => "type_definition"
  | implementationBlock => "implementation_block"
  | functionDefinition => "function_definition"
  | parameterList => "parameter_list"
  | parameter => "parameter"
  | block => "block"
  | statement => "statement"
  | expression => "expression"
  | qualifiedIdentifier => "qualified_identifier"

def ofName? (name : String) : Option Rule :=
  all.find? (fun rule => rule.name == name)

theorem mem_all (rule : Rule) : rule ∈ all := by
  cases rule <;> decide

theorem of_name_name (rule : Rule) : ofName? rule.name = some rule := by
  cases rule <;> decide

end Rule

end Sierra
