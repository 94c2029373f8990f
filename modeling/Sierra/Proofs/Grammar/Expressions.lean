import Sierra.Grammar.Reading
import Sierra.Proofs.Grammar.Blame
import Sierra.Proofs.Grammar.Rules

/-!
# Reading expressions and statements

Each parser is first put into the form of its rule, so that the readings of its parts make up its
own. The one choice inside an expression is between a number and a name; an array type is a name
with an optional part behind it.
-/

namespace Sierra

set_option autoImplicit false

theorem Identifier.reading (wanted : Expectation) (single : wanted.kinds = [.identifier]) :
    FairReading (Identifier.read wanted) Identifier.phrase anything (.oneOf [.identifier]) := by
  have opens : wanted.closes = false := by simp [wanted.closes_eq, single, Token.Kind.closes]
  have quiet : Quiet wanted.kinds := by
    rw [single]
    decide
  have reading := (FairReading.expect wanted (.inl ⟨opens, quiet⟩) (by simp [single])).map
    Identifier.ofToken
  rw [single] at reading
  exact reading

theorem QualifiedIdentifier.reading :
    FairReading QualifiedIdentifier.read QualifiedIdentifier.phrase anything
      ⟨false, [.identifier], [.punctuation .dot]⟩ := by
  have first := Identifier.reading .pathStart rfl
  have others := Identifier.reading .pathSegment rfl
  have same : (QualifiedIdentifier.read : Parser Input QualifiedIdentifier) =
      (fun first others => ⟨first :: others⟩) <$> Identifier.read .pathStart <*>
        Parser.manyWhile (· = .punctuation .dot)
          (do Parser.advance; Identifier.read .pathSegment) := by
    simp only [read, seq_eq_bind_map, map_eq_pure_bind, bind_assoc, pure_bind]
  rw [same]
  exact (first.map _).seq (others.many_behind _ rfl (by decide) (by decide)) (by decide)

namespace Expression

theorem array_reading : FairReading (Parser.readIf (.punctuation .leftBracket) readArray)
    arrayPhrase.optional anything
      ⟨true, [.punctuation .leftBracket], [.punctuation .leftBracket]⟩ := by
  have index := Identifier.reading .arrayIndex rfl
  have element := Identifier.reading .arrayElement rfl
  have same : (readArray : Parser Input (Identifier × Identifier)) = Parser.advance >>= fun _ =>
      ((fun index _ _ element => (index, element)) <$> Identifier.read .arrayIndex <*>
        Parser.expect .arrayIndexClosing <*> Parser.expect .arrayOf <*>
          Identifier.read .arrayElement) := by
    simp only [readArray, seq_eq_bind_map, map_eq_pure_bind, bind_assoc, pure_bind]
  have inside := (((index.map fun index _ _ element => (index, element)).seq
    (.expect .arrayIndexClosing (by decide) (by decide)) (by decide)).seq
      (.expect .arrayOf (by decide) (by decide)) (by decide)).seq element (by decide)
  rw [same]
  exact inside.read_if_behind _ (by decide) (by decide)

def numberPhrase : Phrase Expression :=
  (fun token => .number token.lexeme token.location) <$> .oneOf [.number]

/-- A name and what may stand behind it, by the value of the whole. -/
def withTail (token : Token) (tail : Option (Identifier × Identifier)) : Expression :=
  tail.elim (.identifier (.ofToken token)) fun array =>
    .arrayType (.ofToken token) array.1 array.2 token.location

def namedPhrase : Phrase Expression :=
  withTail <$> .oneOf [.identifier] <*> arrayPhrase.optional

theorem operand_phrase_eq : operandPhrase = (numberPhrase <|> namedPhrase) := by
  have names := Phrase.alone_or_seq Expression.identifier
    (fun base array => .arrayType base array.1 array.2 base.location) Identifier.phrase arrayPhrase
  unfold operandPhrase namedPhrase
  rw [names, Identifier.phrase, Phrase.map_seq, Phrase.map_bind, Phrase.map_seq]
  rfl

theorem operand_eq : (readOperand : Parser Input Expression) =
    Parser.expect .operand >>= fun token =>
      if token.kind = .number then pure (.number token.lexeme token.location)
      else withTail token <$> Parser.readIf (.punctuation .leftBracket) readArray := by
  apply bind_congr
  intro token
  split
  · rfl
  · rw [map_eq_pure_bind]
    apply bind_congr
    intro tail
    cases tail <;> rfl

theorem number_outlined : Outlines numberPhrase.sentences ⟨false, [.number], []⟩ := by
  rw [numberPhrase, Phrase.sentences_map]
  exact Phrase.outlines_one_of (by simp)

theorem named_outlined : Outlines namedPhrase.sentences
    ⟨false, [.identifier], [.punctuation .leftBracket]⟩ := by
  rw [namedPhrase, Phrase.sentences_seq, Phrase.sentences_map]
  exact outlines_seq (Phrase.outlines_one_of (by simp)) array_reading.outlined (by decide)

theorem operand_outlined : Outlines operandPhrase.sentences
    ⟨false, [.number, .identifier], [.punctuation .leftBracket]⟩ := by
  rw [operand_phrase_eq, Phrase.sentences_either]
  exact outlines_either number_outlined named_outlined rfl rfl (by decide)

theorem number_reads_at {input : Input} (ahead : input.ahead = some .number) :
    readOperand.ReadsAt numberPhrase anything input := by
  rw [operand_eq, numberPhrase, ← Phrase.bind_pure]
  apply Parser.expect_bind_reads_at
  · simp [ahead, Expectation.kinds]
  · simp
  · exact outlines_one.inhabited
  · exact fun _ _ => Phrase.sentences_pure _
  · intro token rest single
    rw [if_pos (by simpa using single)]
    exact (Reading.pure _).reads rest

theorem named_reads_at {input : Input} (ahead : input.ahead ≠ some .number) :
    readOperand.ReadsAt namedPhrase anything input := by
  rw [operand_eq, namedPhrase, Phrase.map_seq]
  apply Parser.expect_bind_reads_at
  · intro kind now
    have other : kind ≠ .number := by simpa [now] using ahead
    simp [Expectation.kinds, other]
  · simp
  · exact array_reading.outlined.inhabited
  · exact fun _ _ => Phrase.sentences_map _ _
  · intro token rest single
    have name : token.kind = .identifier := by simpa using single
    rw [if_neg (by simp [name])]
    exact reads_at_map _ (array_reading.reads rest)

theorem number_blames_at {input : Input} (ahead : input.ahead = some .number)
    (language : Language Token.Kind) : readOperand.BlamesAt language input := by
  obtain ⟨token, rest, tokens, number⟩ := ahead_eq_some ahead
  have taken : Parser.expect .operand input = (.ok token, ⟨rest, input.finish⟩) :=
    Parser.expect_of_mem tokens (by simp [Expectation.kinds, number])
  have reply : readOperand input =
      (.ok (.number token.lexeme token.location), ⟨rest, input.finish⟩) := by
    rw [operand_eq, Parser.bind_of_ok taken, if_pos number]
    rfl
  exact Parser.blames_at_ok reply

theorem named_blames_at {input : Input} (ahead : input.ahead ≠ some .number) :
    readOperand.BlamesAt namedPhrase.sentences input := by
  have agree : ∀ kind, input.ahead = some kind →
      (kind ∈ Expectation.operand.kinds ↔ kind ∈ [.identifier]) := by
    intro kind now
    have other : kind ≠ .number := by simpa [now] using ahead
    simp [Expectation.kinds, other]
  have outlined : Outlines (Phrase.oneOf [.identifier]).sentences _ :=
    Phrase.outlines_one_of (by simp)
  rw [operand_eq, namedPhrase, Phrase.sentences_seq, Phrase.sentences_map]
  apply blames_at_bind (Parser.expect_reads_at agree (by simp))
  · exact Parser.blames_at_expect (Expectation.blamed_of_quiet outlined rfl (by decide) _)
  · intro token rest _
    split
    · exact Parser.blames_at_ok rfl
    · exact Parser.blames_at_map _ (array_reading.blames rest)
  · exact outlined
  · exact array_reading.outlined
  · exact settled_one_of (by decide)
  · decide
  · exact .inl fun _ => trivial
  · exact fun _ _ _ _ _ _ _ => by decide

theorem operand_settled : Settled operandPhrase.sentences := by
  rw [operand_phrase_eq, Phrase.sentences_either, numberPhrase, namedPhrase, Phrase.sentences_map,
    Phrase.sentences_seq, Phrase.sentences_map]
  exact settled_add (settled_one_of (by decide))
    (settled_mul (settled_one_of (by decide)) array_reading.settled)

theorem operand_reading : FairReading readOperand operandPhrase anything
    ⟨false, [.number, .identifier], [.punctuation .leftBracket]⟩ := by
  refine ⟨⟨operand_outlined, ?_⟩, operand_settled, ?_⟩
  · intro input
    rw [operand_phrase_eq]
    apply reads_at_either number_outlined named_outlined rfl rfl rfl (by decide)
    · exact number_reads_at
    · exact named_reads_at
  · intro input
    by_cases ahead : input.ahead = some .number
    · exact number_blames_at ahead _
    · rw [operand_phrase_eq, Phrase.sentences_either]
      apply blames_at_either_right (named_blames_at ahead) number_outlined named_outlined
      · intro kind now number
        obtain rfl : kind = .number := by simpa using number
        exact ahead now
      · decide

/-- The ranges of a chain are made one by one, each with all that stands before it on its left. -/
theorem reading : FairReading Expression.read Expression.phrase anything
    ⟨false, [.number, .identifier],
      [.punctuation .leftBracket, .punctuation .dotDot, .punctuation .leftBracket]⟩ := by
  have others := operand_reading.many_behind (.punctuation .dotDot) rfl (by decide) (by decide)
  have ranges : (readRange : Expression → Parser Input Expression) = fun left =>
      (fun right => range left right left.location) <$> (do Parser.advance; readOperand) := by
    funext left
    simp only [readRange, map_eq_pure_bind, bind_assoc]
  have same : (Expression.read : Parser Input Expression) =
      (fun first others =>
          others.foldl (fun left right => range left right left.location) first) <$>
        readOperand <*> Parser.manyWhile (· = .punctuation .dotDot)
          (do Parser.advance; readOperand) := by
    rw [seq_eq_bind_map, map_eq_pure_bind, bind_assoc, Expression.read, ranges]
    apply bind_congr
    intro first
    rw [Parser.repeat_while_fold, pure_bind]
  rw [same]
  exact (operand_reading.map _).seq others (by decide)

end Expression

namespace Statement

def behindPhrase (expression : Expression) : Phrase Statement :=
  (fun assignment _ => ⟨expression, assignment, expression.location⟩) <$>
    (Expression.phrase.behind (.punctuation .colonEquals)).optional <*> Phrase.mark .semicolon

def behindSentences : Language Token.Kind :=
  (Expression.phrase.behind (.punctuation .colonEquals)).optional.sentences *
    (Phrase.mark .semicolon).sentences

theorem phrase_eq : phrase = Expression.phrase.bind behindPhrase := by
  unfold phrase
  rw [Phrase.seq_eq_bind, Phrase.map_seq, Phrase.bind_assoc]
  simp only [← Phrase.seq_eq_bind]
  rfl

theorem behind_sentences_eq (expression : Expression) :
    (behindPhrase expression).sentences = behindSentences := by
  rw [behindPhrase, Phrase.sentences_seq, Phrase.sentences_map, behindSentences]

theorem behind_reading (expression : Expression) :
    FairReading (readBehind expression) (behindPhrase expression) anything
      ⟨false, [.punctuation .colonEquals, .punctuation .semicolon], []⟩ := by
  have assignment := Expression.reading.read_if_behind (.punctuation .colonEquals) (by decide)
    (by decide)
  have same : (readBehind expression : Parser Input Statement) =
      (fun assignment _ => ⟨expression, assignment, expression.location⟩) <$>
        Parser.readIf (.punctuation .colonEquals) (do Parser.advance; Expression.read) <*>
          Parser.expect .statementClosing := by
    simp only [readBehind, seq_eq_bind_map, map_eq_pure_bind, bind_assoc, pure_bind]
  rw [same]
  exact (assignment.map _).seq (.expect .statementClosing (by decide) (by decide)) (by decide)

theorem behind_outlined : Outlines behindSentences
    ⟨false, [.punctuation .colonEquals, .punctuation .semicolon], []⟩ := by
  have outlined := outlines_optional (Phrase.outlines_behind (.punctuation .colonEquals)
    Expression.reading.outlined)
  rw [behindSentences, Phrase.sentences_optional]
  exact outlines_seq outlined (Phrase.outlines_one_of (by simp)) (by decide)

theorem reading : FairReading Statement.read Statement.phrase anything
    ⟨false, [.number, .identifier], []⟩ := by
  rw [phrase_eq]
  exact Expression.reading.bind behind_reading behind_sentences_eq (by decide)

end Statement

end Sierra
