import Sierra.Proofs.Grammar.Definitions

/-!
# Reading files

The four units begin with different keywords, so the token at hand tells which one is read. A file
is as many units as there are before the end of the input. Every parser of a rule reads the phrase
of the rule as long as nothing follows.
-/

namespace Sierra

set_option autoImplicit false

theorem UseStatement.reading : FairReading UseStatement.read UseStatement.phrase anything
    ⟨false, [.keyword .use], []⟩ := by
  have same : (UseStatement.read : Parser Input UseStatement) =
      (fun opening path _ => UseStatement.mk path opening.location) <$>
      Parser.expect .useOpening <*> QualifiedIdentifier.read <*> Parser.expect .useClosing := by
    simp only [UseStatement.read, seq_eq_bind_map, map_eq_pure_bind, bind_assoc, pure_bind]
  have opening := (FairReading.expect .useOpening (by decide) (by decide)).map
    fun opening path (_ : Token) => UseStatement.mk path opening.location
  rw [same]
  exact (opening.seq QualifiedIdentifier.reading (by decide)).seq
    (.expect .useClosing (by decide) (by decide)) (by decide)

theorem ProgramStatement.reading :
    FairReading ProgramStatement.read ProgramStatement.phrase anything
      ⟨false, [.keyword .program], []⟩ := by
  have same : (ProgramStatement.read : Parser Input ProgramStatement) =
      (fun opening name _ => ProgramStatement.mk name opening.location) <$>
        Parser.expect .programOpening <*> Identifier.read .programName <*>
        Parser.expect .programClosing := by
    simp only [ProgramStatement.read, seq_eq_bind_map, map_eq_pure_bind, bind_assoc, pure_bind]
  have opening := (FairReading.expect .programOpening (by decide) (by decide)).map
    fun opening name (_ : Token) => ProgramStatement.mk name opening.location
  have named := opening.seq (Identifier.reading .programName rfl) (by decide)
  rw [same]
  exact named.seq (.expect .programClosing (by decide) (by decide)) (by decide)

theorem TypeDefinition.reading : FairReading TypeDefinition.read TypeDefinition.phrase anything
    ⟨false, [.keyword .type], []⟩ := by
  have same : (TypeDefinition.read : Parser Input TypeDefinition) =
      (fun opening name _ value _ => TypeDefinition.mk name value opening.location) <$>
        Parser.expect .typeOpening <*> Identifier.read .typeName <*> Parser.expect .typeEquals <*>
        Expression.read <*> Parser.expect .typeClosing := by
    simp only [TypeDefinition.read, seq_eq_bind_map, map_eq_pure_bind, bind_assoc, pure_bind]
  have opening := (FairReading.expect .typeOpening (by decide) (by decide)).map
    fun opening name (_ : Token) value (_ : Token) => TypeDefinition.mk name value opening.location
  have named := (opening.seq (Identifier.reading .typeName rfl) (by decide)).seq
    (.expect .typeEquals (by decide) (by decide)) (by decide)
  rw [same]
  exact (named.seq Expression.reading (by decide)).seq
    (.expect .typeClosing (by decide) (by decide)) (by decide)

namespace SyntaxUnit

def readFrom : Token.Kind → Parser Input SyntaxUnit
  | .keyword .use => .use <$> UseStatement.read
  | .keyword .program => .program <$> ProgramStatement.read
  | .keyword .type => .type <$> TypeDefinition.read
  | .keyword .implementation => .implementation <$> ImplementationBlock.read
  | _ => fun input => (.error (Expectation.unitOpening.error input.next), input)

theorem read_eq (input : Input) : read input = readFrom input.next.kind input := by
  rw [read, Parser.next_bind]
  generalize input.next.kind = kind
  cases kind with
  | keyword word => cases word <;> rfl
  | _ => rfl

theorem read_ahead {input : Input} {kind : Token.Kind} (ahead : input.ahead = some kind)
    (inside : kind ≠ .endOfInput) : read input = readFrom kind input := by
  rw [read_eq, (next_kind_iff inside).mpr ahead]

theorem read_other {input : Input}
    (other : ∀ kind ∈ Expectation.unitOpening.kinds, input.ahead ≠ some kind) :
    read input = (.error (Expectation.unitOpening.error input.next), input) := by
  have outside : input.next.kind ∉ Expectation.unitOpening.kinds := by
    intro member
    have inside : input.next.kind ≠ .endOfInput :=
      fun ended => Expectation.end_not_wanted _ (ended ▸ member)
    exact other _ member ((next_kind_iff inside).mp rfl)
  rw [read_eq]
  generalize input.next.kind = kind at outside
  cases kind with
  | keyword word => cases word <;> first | rfl | exact absurd (by decide) outside
  | _ => rfl

theorem other_of_ahead {input : Input} (notUse : input.ahead ≠ some (.keyword .use))
    (notProgram : input.ahead ≠ some (.keyword .program))
    (notType : input.ahead ≠ some (.keyword .type))
    (notImplementation : input.ahead ≠ some (.keyword .implementation)) :
    read input = (.error (Expectation.unitOpening.error input.next), input) :=
  read_other (by simp [Expectation.kinds, notUse, notProgram, notType, notImplementation])

theorem reading : FairReading SyntaxUnit.read SyntaxUnit.phrase anything
    ⟨false, [.keyword .use, .keyword .program, .keyword .type, .keyword .implementation], []⟩ := by
  have useRead := UseStatement.reading.map SyntaxUnit.use
  have programRead := ProgramStatement.reading.map SyntaxUnit.program
  have typeRead := TypeDefinition.reading.map SyntaxUnit.type
  have implementationRead := ImplementationBlock.reading.map SyntaxUnit.implementation
  have last := outlines_either typeRead.outlined implementationRead.outlined rfl rfl (by decide)
  rw [← Phrase.sentences_either] at last
  have behind := outlines_either programRead.outlined last rfl rfl (by decide)
  rw [← Phrase.sentences_either] at behind
  have whole := outlines_either useRead.outlined behind rfl rfl (by decide)
  rw [← Phrase.sentences_either] at whole
  refine ⟨⟨whole, ?_⟩, ?_, ?_⟩
  · intro input
    apply reads_at_either useRead.outlined behind rfl rfl rfl (by decide)
    · exact fun ahead => reads_at_congr (read_ahead ahead (by simp)) (useRead.reads input)
    intro notUse
    apply reads_at_either programRead.outlined last rfl rfl rfl (by decide)
    · exact fun ahead => reads_at_congr (read_ahead ahead (by simp)) (programRead.reads input)
    intro notProgram
    apply reads_at_either typeRead.outlined implementationRead.outlined rfl rfl rfl (by decide)
    · exact fun ahead => reads_at_congr (read_ahead ahead (by simp)) (typeRead.reads input)
    intro notType
    by_cases ahead : input.ahead = some (.keyword .implementation)
    · exact reads_at_congr (read_ahead ahead (by simp)) (implementationRead.reads input)
    · refine ⟨[], ?_⟩
      rw [other_of_ahead notUse notProgram notType ahead]
      apply run_fail (Expectation.error_location ..) implementationRead.outlined.inhabited
      · intro kind now viable
        have first := implementationRead.outlined.first kind viable
        simp_all
      · exact fun empty => absurd empty (implementationRead.outlined.not_nil rfl)
  · rw [phrase, Phrase.sentences_either, Phrase.sentences_either, Phrase.sentences_either]
    exact settled_add useRead.settled (settled_add programRead.settled
      (settled_add typeRead.settled implementationRead.settled))
  · intro input
    rw [phrase, Phrase.sentences_either]
    apply blames_at_either useRead.outlined behind rfl (by decide) (by decide) (by decide)
    · exact fun ahead =>
        Parser.blames_at_congr (read_ahead ahead (by simp)) (useRead.blames input)
    intro notUse
    rw [Phrase.sentences_either]
    apply blames_at_either programRead.outlined last rfl (by decide) (by decide) (by decide)
    · exact fun ahead =>
        Parser.blames_at_congr (read_ahead ahead (by simp)) (programRead.blames input)
    intro notProgram
    rw [Phrase.sentences_either]
    apply blames_at_either typeRead.outlined implementationRead.outlined rfl (by decide)
      (by decide) (by decide)
    · exact fun ahead =>
        Parser.blames_at_congr (read_ahead ahead (by simp)) (typeRead.blames input)
    intro notType
    by_cases ahead : input.ahead = some (.keyword .implementation)
    · exact Parser.blames_at_congr (read_ahead ahead (by simp)) (implementationRead.blames input)
    · intro error rest failed
      rw [other_of_ahead notUse notProgram notType ahead] at failed
      obtain ⟨rfl, rfl⟩ := Parser.error_inj failed
      exact ⟨[], rfl, Expectation.blamed_of_quiet implementationRead.outlined rfl (by decide) _⟩

end SyntaxUnit

theorem SourceFile.reading : FairReading SourceFile.read SourceFile.phrase (· = none)
    ⟨true, [.keyword .use, .keyword .program, .keyword .type, .keyword .implementation],
      [.keyword .use, .keyword .program, .keyword .type, .keyword .implementation]⟩ := by
  suffices units : FairReading (Parser.manyWhile (fun _ => true) SyntaxUnit.read)
      SyntaxUnit.phrase.many (· = none) _ from units.map SourceFile.mk
  apply FairReading.many SyntaxUnit.reading.outlined rfl (by decide) SyntaxUnit.reading.settled
  · exact fun input _ _ _ => SyntaxUnit.reading.reads input
  · exact fun input _ _ _ => SyntaxUnit.reading.blames input
  · exact fun _ _ => rfl
  · exact fun _ _ absurdity => nomatch absurdity

theorem SourceFile.read_ends {file : SourceFile} {input rest : Input}
    (reply : SourceFile.read input = (.ok file, rest)) : rest.ahead = none := by
  obtain ⟨units, left, inner, done⟩ := Parser.of_bind_ok reply
  obtain ⟨-, rfl⟩ := Prod.mk.inj done
  simpa using Parser.many_while_ends (SyntaxUnit.reading.consumes rfl _) inner

/-- Every rule is read as its phrase, provided that nothing follows. What may go on behind it is no
closing token and no parameter. -/
theorem Rule.reading (rule : Rule) :
    ∃ outline, FairReading rule.read rule.phrase (· = none) outline ∧ Quiet outline.next := by
  have alone : ∀ {α : Type} {parser : Parser Input α} {phrase : Phrase α} {outline},
      FairReading parser phrase anything outline → Quiet outline.next → ∀ node : α → Node,
        ∃ outline', FairReading (node <$> parser) (node <$> phrase) (· = none) outline' ∧
          Quiet outline'.next :=
    fun reading quiet node => ⟨_, (reading.map node).mono fun _ _ => trivial, quiet⟩
  cases rule with
  | sourceFile => exact ⟨_, SourceFile.reading.map Node.sourceFile, by decide⟩
  | syntaxUnit => exact alone SyntaxUnit.reading (by decide) _
  | useStatement => exact alone UseStatement.reading (by decide) _
  | programStatement => exact alone ProgramStatement.reading (by decide) _
  | typeDefinition => exact alone TypeDefinition.reading (by decide) _
  | implementationBlock => exact alone ImplementationBlock.reading (by decide) _
  | functionDefinition => exact alone FunctionDefinition.reading (by decide) _
  | parameterList => exact alone ParameterList.reading (by decide) _
  | parameter => exact alone Parameter.reading (by decide) _
  | block => exact alone Block.reading (by decide) _
  | statement => exact alone Statement.reading (by decide) _
  | expression => exact alone Expression.reading (by decide) _
  | qualifiedIdentifier => exact alone QualifiedIdentifier.reading (by decide) _

/-- Only a file can be without tokens. -/
theorem Rule.solid (rule : Rule) (other : rule ≠ .sourceFile) : [] ∉ rule.phrase.sentences := by
  have solid : ∀ {α : Type} {parser : Parser Input α} {phrase : Phrase α} {outline},
      FairReading parser phrase anything outline → outline.empty = false →
        ∀ node : α → Node, [] ∉ (node <$> phrase).sentences := by
    intro α parser phrase outline reading full node
    rw [Phrase.sentences_map]
    exact reading.outlined.not_nil full
  cases rule with
  | sourceFile => exact absurd rfl other
  | syntaxUnit => exact solid SyntaxUnit.reading rfl _
  | useStatement => exact solid UseStatement.reading rfl _
  | programStatement => exact solid ProgramStatement.reading rfl _
  | typeDefinition => exact solid TypeDefinition.reading rfl _
  | implementationBlock => exact solid ImplementationBlock.reading rfl _
  | functionDefinition => exact solid FunctionDefinition.reading rfl _
  | parameterList => exact solid ParameterList.reading rfl _
  | parameter => exact solid Parameter.reading rfl _
  | block => exact solid Block.reading rfl _
  | statement => exact solid Statement.reading rfl _
  | expression => exact solid Expression.reading rfl _
  | qualifiedIdentifier => exact solid QualifiedIdentifier.reading rfl _

end Sierra
