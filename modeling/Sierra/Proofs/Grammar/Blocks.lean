import Sierra.Proofs.Grammar.Expressions

/-!
# Reading blocks

A block is read without knowing, in front of an expression, whether a statement or the tail begins.
The loop therefore follows another form of the rule: an expression, and behind it nothing more or
the rest of a statement and further parts. Both forms have the same values. The loop ends only in
front of `end`, so that is what must follow the parts of a block.
-/

namespace Sierra.Block

set_option autoImplicit false

open Sierra.Parser

abbrev Parts : Type :=
  List Statement × Option Expression

/-- The parts behind an expression that turned out to begin a statement. -/
def before (statement : Statement) (parts : Parts) : Parts :=
  (statement :: parts.1, parts.2)

def turnPhrase (expression : Expression) : Phrase Parts :=
  pure ([], some expression) <|> before <$> Statement.behindPhrase expression <*> partsPhrase

def turnSentences : Language Token.Kind :=
  1 + Statement.behindSentences * partsPhrase.sentences

theorem parts_unfold : partsPhrase = (pure ([], none) <|> Expression.phrase.bind turnPhrase) := by
  apply Phrase.ext
  intro tokens parts
  constructor
  · intro derivation
    obtain ⟨_, back, _, tail, rfl, ⟨statements, derived, rfl⟩, derived', rfl⟩ := derivation
    cases derived with
    | done =>
        rcases derived' with ⟨rfl, rfl⟩ | ⟨expression, derived', rfl⟩
        · exact .inl ⟨rfl, rfl⟩
        · exact .inr ⟨back, [], expression, by simp, derived', .inl ⟨rfl, rfl⟩⟩
    | @round front middle statement statements derived others =>
        rw [Statement.phrase_eq] at derived
        obtain ⟨first, rest, expression, rfl, begins, behind⟩ := derived
        refine .inr ⟨first, rest ++ (middle ++ back), expression, by simp, begins, .inr ?_⟩
        exact ⟨rest, middle ++ back, _, _, rfl, ⟨statement, behind, rfl⟩,
          ⟨middle, back, _, tail, rfl, ⟨statements, others, rfl⟩, derived', rfl⟩, rfl⟩
  · intro derivation
    rcases derivation with ⟨rfl, rfl⟩ | ⟨first, _, expression, rfl, begins, ⟨rfl, rfl⟩ |
      ⟨rest, _, _, _, rfl, ⟨statement, behind, rfl⟩, others, rfl⟩⟩
    · exact ⟨[], [], _, none, rfl, ⟨[], .done, rfl⟩, .inl ⟨rfl, rfl⟩, rfl⟩
    · exact ⟨[], first ++ [], _, some expression, rfl, ⟨[], .done, rfl⟩,
        .inr ⟨expression, by simpa using begins, rfl⟩, rfl⟩
    · obtain ⟨middle, back, _, tail, rfl, ⟨statements, others, rfl⟩, derived', rfl⟩ := others
      have whole : Statement.phrase (first ++ rest) statement := by
        rw [Statement.phrase_eq]
        exact ⟨first, rest, expression, rfl, begins, behind⟩
      exact ⟨(first ++ rest) ++ middle, back, _, tail, by simp,
        ⟨statement :: statements, .round whole others, rfl⟩, derived', rfl⟩

theorem turn_sentences_eq (expression : Expression) :
    (turnPhrase expression).sentences = turnSentences := by
  rw [turnPhrase, Phrase.sentences_either, Phrase.sentences_pure, Phrase.sentences_seq,
    Phrase.sentences_map, Statement.behind_sentences_eq, turnSentences]

theorem parts_sentences_eq :
    partsPhrase.sentences = 1 + Expression.phrase.sentences * turnSentences := by
  rw [parts_unfold, Phrase.sentences_either, Phrase.sentences_pure,
    Phrase.sentences_bind fun _ expression _ => turn_sentences_eq expression]

theorem parts_outlined : Outlines partsPhrase.sentences
    ⟨true, [.number, .identifier],
      [.number, .identifier, .punctuation .leftBracket, .punctuation .dotDot,
        .punctuation .leftBracket, .punctuation .colonEquals, .punctuation .semicolon]⟩ := by
  exact outlines_turns parts_sentences_eq Expression.reading.outlined Statement.behind_outlined rfl
    rfl (by decide) (by decide)

theorem turn_outlined : Outlines turnSentences
    ⟨true, [.punctuation .colonEquals, .punctuation .semicolon],
      [.number, .identifier, .punctuation .leftBracket, .punctuation .dotDot,
        .punctuation .leftBracket, .punctuation .colonEquals, .punctuation .semicolon,
        .punctuation .colonEquals, .punctuation .semicolon]⟩ :=
  outlines_optional (outlines_seq Statement.behind_outlined parts_outlined (by decide))

def readParts : Parser Input Parts :=
  (fun parts => (parts.1.reverse, parts.2)) <$>
    repeatWhile (· ≠ .keyword .endBlock) readPart ([], none)

def readTurn (expression : Expression) : Parser Input Parts := do
  let found ← next
  if found.kind = .keyword .endBlock then
    return ([], some expression)
  else
    before <$> Statement.readBehind expression <*> readParts

def push (parts : Parts) (done : List Statement) : Parts :=
  (parts.1 ++ done, parts.2)

theorem read_part_push (done : List Statement) (parts : Parts) :
    (readPart (push parts done) : Parser Input Parts) = (push · done) <$> readPart parts := by
  simp only [readPart, map_bind]
  apply bind_congr
  intro expression
  apply bind_congr
  intro found
  split <;> simp [push]

theorem consumes : Consumes (· ≠ .keyword .endBlock) readPart := by
  intro parts input kind after rest _ _ reply
  obtain ⟨expression, left, inner, reply'⟩ := of_bind_ok reply
  have shorter := reads_at_shorter (Expression.reading.reads input)
    (Expression.reading.outlined.not_nil rfl) inner
  rw [next_bind] at reply'
  split at reply'
  · obtain ⟨-, rfl⟩ := Prod.mk.inj reply'
    exact shorter
  · obtain ⟨statement, left', inner', reply''⟩ := of_bind_ok reply'
    have reading := Statement.behind_reading expression
    have shorter' := reads_at_shorter (reading.reads left) (reading.outlined.not_nil rfl) inner'
    obtain ⟨-, rfl⟩ := Prod.mk.inj reply''
    omega

theorem read_parts_stop {input : Input} (stop : input.ahead.any (· ≠ .keyword .endBlock) = false) :
    readParts input = (.ok ([], none), input) := by
  have none : repeatWhile (· ≠ .keyword .endBlock) readPart ([], none) input =
      (pure ([], none) : Parser Input Parts) input := repeat_within_stop _ _ stop
  rw [readParts, map_congr_at _ none]
  rfl

theorem read_parts_go {input : Input} (go : input.ahead.any (· ≠ .keyword .endBlock) = true) :
    readParts input = (Expression.read >>= readTurn) input := by
  have unfolded : repeatWhile (· ≠ .keyword .endBlock) readPart ([], none) input =
      (readPart ([], none) >>= repeatWhile (· ≠ .keyword .endBlock) readPart) input := by
    rw [repeat_while_eq consumes, if_pos go]
  have later : ∀ statement, repeatWhile (· ≠ .keyword .endBlock) readPart ([statement], none) =
      (push · [statement]) <$> repeatWhile (· ≠ .keyword .endBlock) readPart ([], none) :=
    fun statement => repeat_while_map (push · [statement]) (read_part_push [statement]) ([], none)
  rw [readParts, map_congr_at _ unfolded, readPart, bind_assoc, map_bind]
  apply bind_congr_at
  intro expression rest _
  rw [readTurn, bind_assoc, map_bind, next_bind, next_bind]
  by_cases closing : rest.next.kind = .keyword .endBlock
  · rw [if_pos closing, if_pos closing, pure_bind]
    have stop : rest.ahead.any (· ≠ .keyword .endBlock) = false := by
      simp [(next_kind_iff (by simp)).mp closing]
    have ended : repeatWhile (· ≠ .keyword .endBlock) readPart ([], some expression) rest =
        (pure ([], some expression) : Parser Input Parts) rest := repeat_within_stop _ _ stop
    rw [map_congr_at _ ended]
    rfl
  · rw [if_neg closing, if_neg closing, bind_assoc, map_bind, seq_eq_bind_map, bind_map_left]
    apply bind_congr_at
    intro statement left _
    have reversed : (fun parts : Parts => (parts.1.reverse, parts.2)) ∘ (push · [statement]) =
        before statement ∘ fun parts : Parts => (parts.1.reverse, parts.2) := by
      funext parts
      simp [push, before]
    rw [pure_bind, later, readParts, ← comp_map, ← comp_map, reversed]

theorem statement_parts_outlined (expression : Expression) :
    Outlines (before <$> Statement.behindPhrase expression <*> partsPhrase).sentences
      ⟨false, [.punctuation .colonEquals, .punctuation .semicolon],
        [.number, .identifier, .punctuation .leftBracket, .punctuation .dotDot,
          .punctuation .leftBracket, .punctuation .colonEquals, .punctuation .semicolon]⟩ := by
  rw [Phrase.sentences_seq, Phrase.sentences_map, Statement.behind_sentences_eq]
  exact outlines_seq Statement.behind_outlined parts_outlined (by decide)

theorem statement_parts_reads_at {input : Input} (expression : Expression)
    (shorter : ∀ rest : Input, rest.tokens.length ≤ input.tokens.length →
      readParts.ReadsAt partsPhrase (· = some (.keyword .endBlock)) rest) :
    (before <$> Statement.readBehind expression <*> readParts).ReadsAt
      (before <$> Statement.behindPhrase expression <*> partsPhrase)
      (· = some (.keyword .endBlock)) input := by
  have behind := (Statement.behind_reading expression).map before
  rw [Phrase.seq_eq_bind, seq_eq_bind_map]
  apply reads_at_bind (behind.reads input)
  · intro front f rest tokens _
    apply reads_at_map
    apply shorter
    simp [tokens]
  · exact fun _ f _ => Phrase.sentences_map f partsPhrase
  · exact parts_outlined.inhabited
  · exact behind.outlined.apart parts_outlined (by decide)
  · exact fun _ _ => trivial
  · exact fun _ _ _ => trivial

theorem turn_reads_at {input : Input} (expression : Expression)
    (shorter : ∀ rest : Input, rest.tokens.length ≤ input.tokens.length →
      readParts.ReadsAt partsPhrase (· = some (.keyword .endBlock)) rest) :
    (readTurn expression).ReadsAt (turnPhrase expression) (· = some (.keyword .endBlock))
      input := by
  have outlined := statement_parts_outlined expression
  by_cases closing : input.ahead = some (.keyword .endBlock)
  · have stays : readTurn expression input = (.ok ([], some expression), input) := by
      rw [readTurn, next_bind, if_pos ((next_kind_iff (by simp)).mpr closing)]
      rfl
    refine ⟨[], ?_⟩
    rw [stays]
    apply run_absent (outlined.not_nil rfl)
    intro kind ahead viable
    obtain rfl : Token.Kind.keyword .endBlock = kind := by simpa [closing] using ahead
    exact absurd (outlined.first _ viable) (by decide)
  · have goes : readTurn expression input =
        (before <$> Statement.readBehind expression <*> readParts) input := by
      rw [readTurn, next_bind, if_neg fun same => closing ((next_kind_iff (by simp)).mp same)]
    apply reads_at_congr goes
    apply reads_at_present (statement_parts_reads_at expression shorter) (outlined.not_nil rfl)
    · exact fun follows => absurd follows closing
    · exact fun _ follows => follows

theorem parts_read_at (input : Input) :
    readParts.ReadsAt partsPhrase (· = some (.keyword .endBlock)) input := by
  have whole : (Expression.phrase.bind turnPhrase).sentences =
      Expression.phrase.sentences * turnSentences :=
    Phrase.sentences_bind fun _ expression _ => turn_sentences_eq expression
  have outlined := outlines_seq Expression.reading.outlined turn_outlined (by decide)
  rw [← whole] at outlined
  -- On the tokens left: every turn takes those of an expression.
  induction length : input.tokens.length using Nat.strong_induction_on generalizing input with
  | _ size induction =>
  by_cases go : input.ahead.any (· ≠ .keyword .endBlock) = true
  · have turns : (Expression.read >>= readTurn).ReadsAt (Expression.phrase.bind turnPhrase)
        (· = some (.keyword .endBlock)) input := by
      apply reads_at_bind (Expression.reading.reads input)
      · intro front expression rest tokens derived
        apply turn_reads_at
        intro left shorter
        have taken : front ≠ [] := by
          intro none
          subst none
          exact Expression.reading.outlined.not_nil rfl (Phrase.kinds_mem_sentences derived)
        have some := List.length_pos_iff.mpr taken
        apply induction _ _ left rfl
        simp only [← length, tokens, List.length_append]
        omega
      · exact fun _ expression _ => turn_sentences_eq expression
      · exact turn_outlined.inhabited
      · exact Expression.reading.outlined.apart turn_outlined (by decide)
      · exact fun _ _ => trivial
      · exact fun _ _ _ => trivial
    apply reads_at_congr (read_parts_go go)
    rw [parts_unfold]
    apply reads_at_present turns (outlined.not_nil rfl)
    · intro follows
      simp [follows] at go
    · exact fun _ follows => follows
  · have stop : input.ahead.any (· ≠ .keyword .endBlock) = false := by simpa using go
    refine ⟨[], ?_⟩
    rw [read_parts_stop stop, parts_unfold]
    apply run_absent (outlined.not_nil rfl)
    intro kind ahead viable
    have closing : kind = .keyword .endBlock := by simpa [ahead] using stop
    exact absurd (closing ▸ outlined.first kind viable) (by decide)

/-- In front of `end` nothing is read behind the expression, so nothing can be wrong there. -/
theorem turn_blames_at {input : Input} (expression : Expression)
    (shorter : ∀ rest : Input, rest.tokens.length < input.tokens.length →
      readParts.BlamesAt partsPhrase.sentences rest) :
    (readTurn expression).BlamesAt turnSentences input := by
  have behind := (Statement.behind_reading expression).map before
  have same : (before <$> Statement.behindPhrase expression).sentences =
      Statement.behindSentences := by
    rw [Phrase.sentences_map, Statement.behind_sentences_eq]
  by_cases closing : input.next.kind = .keyword .endBlock
  · have stays : readTurn expression input = (.ok ([], some expression), input) := by
      rw [readTurn, next_bind, if_pos closing]
      rfl
    exact blames_at_ok stays
  · have goes : readTurn expression input =
        (before <$> Statement.readBehind expression <*> readParts) input := by
      rw [readTurn, next_bind, if_neg closing]
    apply blames_at_congr goes
    apply blames_at_nexts (nexts_one_add _)
    rw [← same, seq_eq_bind_map]
    apply behind.bind_blames_at _ parts_outlined (by decide)
    intro f rest reply
    have taken := reads_at_shorter (behind.reads input) (behind.outlined.not_nil rfl) reply
    exact blames_at_map f (shorter rest taken)

theorem parts_blame_at (input : Input) : readParts.BlamesAt partsPhrase.sentences input := by
  induction length : input.tokens.length using Nat.strong_induction_on generalizing input with
  | _ size induction =>
  by_cases go : input.ahead.any (· ≠ .keyword .endBlock) = true
  · apply blames_at_congr (read_parts_go go)
    rw [parts_sentences_eq]
    apply blames_at_nexts (nexts_one_add _)
    apply Expression.reading.bind_blames_at _ turn_outlined (by decide)
    intro expression rest reply
    have taken := reads_at_shorter (Expression.reading.reads input)
      (Expression.reading.outlined.not_nil rfl) reply
    apply turn_blames_at
    intro left shorter
    exact induction _ (by omega) left rfl
  · exact blames_at_ok (read_parts_stop (by simpa using go))

theorem parts_settled : Settled partsPhrase.sentences := by
  rw [partsPhrase, Phrase.sentences_seq, Phrase.sentences_map, Phrase.sentences_many,
    Phrase.sentences_optional]
  exact settled_mul (settled_kstar Statement.reading.settled)
    (settled_add settled_one Expression.reading.settled)

theorem parts_reading : FairReading readParts partsPhrase (· = some (.keyword .endBlock))
    ⟨true, [.number, .identifier],
      [.number, .identifier, .punctuation .leftBracket, .punctuation .dotDot,
        .punctuation .leftBracket, .punctuation .colonEquals, .punctuation .semicolon]⟩ :=
  ⟨⟨parts_outlined, parts_read_at⟩, parts_settled, parts_blame_at⟩

theorem read_parts_ends {input rest : Input} {parts : Parts}
    (reply : readParts input = (.ok parts, rest)) :
    rest.ahead.any (· ≠ .keyword .endBlock) = false := by
  obtain ⟨parts', left, inner, done⟩ := of_bind_ok reply
  obtain ⟨-, rfl⟩ := Prod.mk.inj done
  exact repeat_while_ends consumes inner

theorem reading :
    FairReading Block.read Block.phrase anything ⟨false, [.keyword .beginBlock], []⟩ := by
  have same : (Block.read : Parser Input Block) =
      (fun opening parts _ => ⟨parts.1, parts.2, opening.location⟩) <$>
        expect .blockOpening <*> readParts <*> expect .blockClosing := by
    simp only [Block.read, readParts, seq_eq_bind_map, map_eq_pure_bind, bind_assoc, pure_bind]
  rw [same]
  have opening := (FairReading.expect .blockOpening (by decide) (by decide)).map
    fun opening (parts : Parts) (_ : Token) => Block.mk parts.1 parts.2 opening.location
  apply (opening.seq parts_reading (by decide)).seq_closing rfl (by decide) (by decide) (by decide)
  intro input f rest reply
  obtain ⟨left, parts, inner⟩ := of_seq_ok reply
  exact read_parts_ends inner

end Sierra.Block
