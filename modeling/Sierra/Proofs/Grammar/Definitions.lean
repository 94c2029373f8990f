import Sierra.Proofs.Grammar.Blocks
import Sierra.Proofs.Grammar.Parameters

/-!
# Reading definitions

Functions, and the blocks that implement a type by a list of them. A block of functions is read
until its `end`, so only the end of the input can stand where the `end` is missing.
-/

namespace Sierra

set_option autoImplicit false

theorem Visibility.read_eq : Visibility.read? =
    Parser.readModifier .publicAccess .privateAccess Visibility.publicAccess
      Visibility.privateAccess := by
  apply bind_congr
  intro found
  split <;> simp_all

theorem Visibility.reading : FairReading Visibility.read? Visibility.phrase.optional anything
    ⟨true, [.keyword .publicAccess, .keyword .privateAccess],
      [.keyword .publicAccess, .keyword .privateAccess]⟩ := by
  rw [read_eq]
  exact modifier_reading (by decide)

theorem FunctionDefinition.reading :
    FairReading FunctionDefinition.read FunctionDefinition.phrase anything
      ⟨false, [.keyword .publicAccess, .keyword .privateAccess, .keyword .function], []⟩ := by
  have same : FunctionDefinition.read = Parser.located
      ((fun visibility _ name parameters returnType body location =>
        FunctionDefinition.mk visibility name parameters returnType body location) <$>
        Visibility.read? <*> Parser.expect .functionOpening <*> Identifier.read .functionName <*>
        Parser.readIf (.punctuation .leftParen) ParameterList.read <*>
        Parser.readIf (.punctuation .colon) (do Parser.advance; QualifiedIdentifier.read) <*>
        Block.read) := by
    simp only [FunctionDefinition.read, Parser.located, seq_eq_bind_map, map_eq_pure_bind,
      bind_assoc, pure_bind]
  have parameters := FairReading.read_if (.punctuation .leftParen) ParameterList.reading.outlined
    rfl rfl (by decide) ParameterList.reading.settled
    (fun input _ => ParameterList.reading.reads input)
    (fun input _ => ParameterList.reading.blames input)
  have returnType := QualifiedIdentifier.reading.read_if_behind (.punctuation .colon) (by decide)
    (by decide)
  have opening := (Visibility.reading.map fun visibility (_ : Token) name parameters returnType body
    location => FunctionDefinition.mk visibility name parameters returnType body location).seq
      (.expect .functionOpening (by decide) (by decide)) (by decide)
  have name := opening.seq (Identifier.reading .functionName rfl) (by decide)
  have whole := ((name.seq parameters (by decide)).seq returnType (by decide)).seq Block.reading
    (by decide)
  rw [same]
  exact whole.located rfl

namespace ImplementationBlock

theorem functions_reading :
    FairReading (Parser.manyWhile (· ≠ .keyword .endBlock) FunctionDefinition.read)
      FunctionDefinition.phrase.many (· = some (.keyword .endBlock))
      ⟨true, [.keyword .publicAccess, .keyword .privateAccess, .keyword .function],
        [.keyword .publicAccess, .keyword .privateAccess, .keyword .function]⟩ := by
  apply FairReading.many FunctionDefinition.reading.outlined rfl (by decide)
    FunctionDefinition.reading.settled
  · exact fun input _ _ _ => FunctionDefinition.reading.reads input
  · exact fun input _ _ _ => FunctionDefinition.reading.blames input
  · decide
  · intro kind more closing
    simp [Option.some_inj.mp closing] at more

theorem read_functions_ends {functions : List FunctionDefinition} {input rest : Input}
    (reply : Parser.manyWhile (· ≠ .keyword .endBlock) FunctionDefinition.read input =
      (.ok functions, rest)) : rest.ahead.any (· ≠ .keyword .endBlock) = false := by
  exact Parser.many_while_ends (FunctionDefinition.reading.consumes rfl _) reply

theorem reading : FairReading ImplementationBlock.read ImplementationBlock.phrase anything
    ⟨false, [.keyword .implementation], []⟩ := by
  have same : (ImplementationBlock.read : Parser Input ImplementationBlock) =
      (fun opening name functions _ => ImplementationBlock.mk name functions opening.location) <$>
        Parser.expect .implementationOpening <*> Identifier.read .implementationName <*>
        Parser.manyWhile (· ≠ .keyword .endBlock) FunctionDefinition.read <*>
        Parser.expect .implementationClosing := by
    simp only [ImplementationBlock.read, seq_eq_bind_map, map_eq_pure_bind, bind_assoc, pure_bind]
  have opening := (FairReading.expect .implementationOpening (by decide) (by decide)).map
    fun opening name functions (_ : Token) =>
      ImplementationBlock.mk name functions opening.location
  have named := opening.seq (Identifier.reading .implementationName rfl) (by decide)
  rw [same]
  apply (named.seq functions_reading (by decide)).seq_closing rfl (by decide) (by decide)
    (by decide)
  intro input f rest reply
  obtain ⟨left, functions, inner⟩ := Parser.of_seq_ok reply
  exact read_functions_ends inner

end ImplementationBlock

end Sierra
