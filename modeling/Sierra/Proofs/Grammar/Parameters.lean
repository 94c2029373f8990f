import Sierra.Proofs.Grammar.Expressions

/-!
# Reading parameters

A modifier is one of two keywords or nothing. The forms of a parameter that are refused by name are
not sentences: each refusal stands where the refused token could not have gone on anyway, as long as
`self` follows. What could have come there instead is exactly what makes the form an invalid
parameter, so a specifier is blamed together with the `self` behind it.
-/

namespace Sierra

set_option autoImplicit false

open scoped Computability

section Modifier

variable {α : Type} {word word' : Keyword} {value value' : α}

def Parser.readModifier (word word' : Keyword) (value value' : α) : Parser Input (Option α) := do
  let found ← next
  if found.kind = .keyword word then do
    advance
    return some value
  else if found.kind = .keyword word' then do
    advance
    return some value'
  else
    return none

theorem Phrase.modifier_eq (other : word' ≠ word) :
    ((fun _ => value) <$> keyword word <|> (fun _ => value') <$> keyword word') =
      (fun token => if token.kind = .keyword word then value else value') <$>
        oneOf [.keyword word, .keyword word'] := by
  apply Phrase.ext
  intro tokens result
  constructor
  · intro derivation
    rcases derivation with ⟨token, ⟨rfl, same⟩, rfl⟩ | ⟨token, ⟨rfl, same⟩, rfl⟩
    · exact ⟨token, ⟨rfl, by simp_all⟩, by simp_all⟩
    · exact ⟨token, ⟨rfl, by simp_all⟩, by simp_all⟩
  · intro derivation
    obtain ⟨token, ⟨rfl, member⟩, rfl⟩ := derivation
    by_cases same : token.kind = .keyword word
    · exact .inl ⟨token, ⟨rfl, by simp [same]⟩, by simp [same]⟩
    · exact .inr ⟨token, ⟨rfl, by simpa [same] using member⟩, by simp [same]⟩

theorem modifier_reads (other : word' ≠ word) :
    Reading (Parser.readModifier word word' value value')
      (Phrase.optional
        ((fun _ => value) <$> Phrase.keyword word <|> (fun _ => value') <$> Phrase.keyword word'))
      anything ⟨true, [.keyword word, .keyword word'], [.keyword word, .keyword word']⟩ := by
  have mapped := Phrase.sentences_map
    (fun token => if token.kind = .keyword word then value else value')
    (Phrase.oneOf [.keyword word, .keyword word'])
  have outlined := Phrase.outlines_one_of (List.cons_ne_nil (.keyword word) [.keyword word'])
  rw [← mapped] at outlined
  rw [Phrase.modifier_eq other]
  apply Reading.optional _ outlined rfl
  · intro kind first
    rw [mapped]
    exact viable_of_mem (Phrase.mem_sentences_one_of.mpr ⟨kind, first, rfl⟩)
  · intro input kind ahead first
    refine ⟨?_, reads_at_map _ (Parser.take_reads_at ahead first)⟩
    have passed : (some <$> (fun token => if token.kind = .keyword word then value else value') <$>
        Parser.take) input =
          (.ok (some (if input.next.kind = .keyword word then value else value')),
            input.rest) := rfl
    rw [Parser.readModifier, Parser.next_bind, passed]
    by_cases here : input.next.kind = .keyword word
    · rw [if_pos here, if_pos here]
      rfl
    · obtain ⟨token, rest, tokens, rfl⟩ := ahead_eq_some ahead
      have last : input.next.kind = .keyword word' := by
        rw [next_of_tokens tokens] at here ⊢
        simpa [Outline.oneOf, here] using first
      rw [if_neg here, if_neg here, if_pos last]
      rfl
  · intro input away
    have neither : input.next.kind ≠ .keyword word ∧ input.next.kind ≠ .keyword word' := by
      simpa [Outline.oneOf, next_kind_iff] using away
    rw [Parser.readModifier, Parser.next_bind, if_neg neither.1, if_neg neither.2]
    rfl

theorem modifier_reading (other : word' ≠ word) :
    FairReading (Parser.readModifier word word' value value')
      (Phrase.optional
        ((fun _ => value) <$> Phrase.keyword word <|> (fun _ => value') <$> Phrase.keyword word'))
      anything ⟨true, [.keyword word, .keyword word'], [.keyword word, .keyword word']⟩ := by
  refine ⟨modifier_reads other, ?_, ?_⟩
  · rw [Phrase.sentences_optional, Phrase.modifier_eq other, Phrase.sentences_map]
    exact settled_add settled_one (settled_one_of (by simp))
  · intro input
    have answers : ∃ answer rest,
        Parser.readModifier word word' value value' input = (.ok answer, rest) := by
      rw [Parser.readModifier, Parser.next_bind]
      split
      · exact ⟨_, _, rfl⟩
      split
      · exact ⟨_, _, rfl⟩
      · exact ⟨_, _, rfl⟩
    obtain ⟨answer, rest, reply⟩ := answers
    exact Parser.blames_at_ok reply

end Modifier

theorem Mutability.read_eq : Mutability.read? =
    Parser.readModifier .const .mutable Mutability.const Mutability.mutable := by
  apply bind_congr
  intro found
  split <;> simp_all

theorem Mutability.reading : FairReading Mutability.read? Mutability.phrase.optional anything
    ⟨true, [.keyword .const, .keyword .mutable], [.keyword .const, .keyword .mutable]⟩ := by
  rw [read_eq]
  exact modifier_reading (by decide)

namespace Specifier

abbrev beforeSelf : Follow := (· = some (.keyword .self))

def readBehind (token : Token) : Parser Input Specifier :=
  if token.kind = .identifier then do
    Parser.refuse (.punctuation .colon) (.typedParameter token.lexeme)
    return .named (.ofToken token)
  else do
    Parser.refuse .identifier .namedType
    return .colon

theorem behind_reads_at {allowed : List Token.Kind} {input : Input} {value : Token → Specifier}
    (agree : ∀ kind, input.ahead = some kind →
      (kind ∈ Expectation.parameterSpecifier.kinds ↔ kind ∈ allowed))
    (some : allowed ≠ []) (reads : ∀ token rest, token.kind ∈ allowed →
      (readBehind token).ReadsAt (pure (value token)) beforeSelf rest) :
    (Parser.expect .parameterSpecifier >>= readBehind).ReadsAt (value <$> .oneOf allowed)
      beforeSelf input := by
  rw [← Phrase.bind_pure]
  apply Parser.expect_bind_reads_at agree some outlines_one.inhabited
  · exact fun _ _ => Phrase.sentences_pure _
  · exact reads

theorem named_reads_at {input : Input} (ahead : input.ahead = some .identifier) :
    (Parser.expect .parameterSpecifier >>= readBehind).ReadsAt
      ((fun token => .named (.ofToken token)) <$> .oneOf [.identifier]) beforeSelf input := by
  apply behind_reads_at
  · simp [ahead, Expectation.kinds]
  · simp
  · intro token rest single
    rw [readBehind, if_pos (by simpa using single)]
    have nothing : Reading (pure (Specifier.named (.ofToken token))) _ beforeSelf _ :=
      (Reading.pure _).mono fun _ _ => trivial
    exact (Reading.refuse_then _ _ nothing (by decide) (by decide) (by simp)).reads rest

theorem colon_reads_at {input : Input} (ahead : input.ahead ≠ some .identifier) :
    (Parser.expect .parameterSpecifier >>= readBehind).ReadsAt
      ((fun _ => .colon) <$> Phrase.mark .colon) beforeSelf input := by
  apply behind_reads_at
  · intro kind now
    have other : kind ≠ .identifier := by simpa [now] using ahead
    simp [Expectation.kinds, other]
  · simp
  · intro token rest single
    have colon : token.kind = .punctuation .colon := by simpa using single
    rw [readBehind, if_neg (by simp [colon])]
    have nothing : Reading (pure Specifier.colon) _ beforeSelf _ :=
      (Reading.pure _).mono fun _ _ => trivial
    exact (Reading.refuse_then _ _ nothing (by decide) (by decide) (by simp)).reads rest

theorem reading : Reading Specifier.read Specifier.phrase beforeSelf
    ⟨false, [.identifier, .punctuation .colon], []⟩ := by
  have named : Outlines (Phrase.sentences
      ((fun token => Specifier.named (.ofToken token)) <$> .oneOf [.identifier])) _ :=
    Phrase.sentences_map _ (.oneOf [.identifier]) ▸ Phrase.outlines_one_of (by simp)
  have colon : Outlines (Phrase.sentences ((fun _ => Specifier.colon) <$> Phrase.mark .colon)) _ :=
    Phrase.sentences_map _ (Phrase.mark .colon) ▸ Phrase.outlines_one_of (by simp)
  have inside : Reading (Parser.expect .parameterSpecifier >>= readBehind) Specifier.phrase
      beforeSelf ⟨false, [.identifier, .punctuation .colon], []⟩ := by
    rw [Specifier.phrase, Identifier.phrase, Phrase.map_map]
    constructor
    · rw [Phrase.sentences_either]
      exact outlines_either named colon rfl rfl (by decide)
    · intro input
      exact reads_at_either named colon rfl rfl rfl (by decide) named_reads_at colon_reads_at
  exact Reading.refuse_then _ .bareSelf inside (by decide) (by decide)
    (fun empty => absurd empty (by decide))

def closedSentences : Language Token.Kind :=
  Specifier.phrase.sentences * (Phrase.keyword .self).sentences

theorem mem_closed_iff {word : List Token.Kind} : word ∈ closedSentences ↔
    ∃ kind ∈ Expectation.parameterSpecifier.kinds, word = [kind, .keyword .self] := by
  have specifiers : ∀ {front : List Token.Kind}, front ∈ Specifier.phrase.sentences ↔
      ∃ kind ∈ Expectation.parameterSpecifier.kinds, front = [kind] := by
    intro front
    rw [Specifier.phrase, Identifier.phrase, Phrase.sentences_either, Phrase.sentences_map,
      Phrase.sentences_map, Phrase.sentences_map, Language.mem_add, Phrase.mem_sentences_one_of,
      Phrase.mem_sentences_one_of]
    simp [Expectation.kinds]
  rw [closedSentences, Language.mem_mul]
  constructor
  · intro product
    obtain ⟨front, member, back, member', rfl⟩ := product
    obtain ⟨kind, listed, rfl⟩ := specifiers.mp member
    obtain ⟨other, closing, rfl⟩ := Phrase.mem_sentences_one_of.mp member'
    obtain rfl : other = .keyword .self := by simpa using closing
    exact ⟨kind, listed, rfl⟩
  · intro closed
    obtain ⟨kind, listed, rfl⟩ := closed
    exact ⟨[kind], specifiers.mpr ⟨kind, listed, rfl⟩, [.keyword .self],
      Phrase.mem_sentences_one_of.mpr ⟨_, List.mem_singleton_self _, rfl⟩, rfl⟩

theorem closed_outlined : Outlines closedSentences
    ⟨false, [.identifier, .punctuation .colon], []⟩ :=
  outlines_seq Specifier.reading.outlined (Phrase.outlines_one_of (by simp)) (by decide)

theorem closed_settled : Settled closedSentences := by
  intro word sentence
  obtain ⟨kind, -, rfl⟩ := mem_closed_iff.mp sentence
  simp

theorem nexts_closed_nil {kind : Token.Kind} : kind ∈ nexts closedSentences [] ↔
    kind ∈ Expectation.parameterSpecifier.kinds := by
  constructor
  · intro viable
    obtain ⟨rest, sentence⟩ := viable
    obtain ⟨other, listed, same⟩ := mem_closed_iff.mp sentence
    obtain ⟨rfl, -⟩ : kind = other ∧ rest = [.keyword .self] := by simpa using same
    exact listed
  · intro listed
    exact ⟨[.keyword .self], mem_closed_iff.mpr ⟨kind, listed, rfl⟩⟩

theorem nexts_closed_single {kind : Token.Kind}
    (listed : kind ∈ Expectation.parameterSpecifier.kinds) :
    nexts closedSentences [kind] = {.keyword .self} := by
  ext next
  constructor
  · intro viable
    obtain ⟨rest, sentence⟩ := viable
    obtain ⟨other, -, same⟩ := mem_closed_iff.mp sentence
    obtain ⟨-, rfl, -⟩ : kind = other ∧ next = .keyword .self ∧ rest = [] := by simpa using same
    rfl
  · intro same
    obtain rfl : next = .keyword .self := same
    exact ⟨[], mem_closed_iff.mpr ⟨kind, listed, rfl⟩⟩

variable {could : Set Token.Kind} {before : Option Token.Kind} {found : Token}

/-- In the place of a specifier, `self` makes a parameter without a name, and any other token is
only misplaced. -/
theorem bare_self_blamed (self : found.kind = .keyword .self) :
    Blamed closedSentences [] found.kind (Refusal.bareSelf.error found).fault := by
  intro could before widens _
  have possible := (widens (by simp [self])).more
  refine .inr (.inr ⟨self, possible ?_, possible ?_⟩)
  · exact nexts_closed_nil.mpr (by decide)
  · exact nexts_closed_nil.mpr (by decide)

theorem specifier_blamed (other : found.kind ≠ .keyword .self) :
    Blamed closedSentences [] found.kind (Expectation.parameterSpecifier.error found).fault := by
  by_cases ended : found.kind = .endOfInput
  · exact Expectation.blamed_at_end ended
  intro could before widens behind
  rw [Expectation.error, if_neg (not_or.mpr ⟨ended, by decide⟩)]
  exact misplaced_fits (by decide) (fun self => absurd self other)
    (fun _ => nexts_closed_nil.mp) (widens ended) ended (behind rfl)

theorem closing_alone {kind : Token.Kind} (listed : kind ∈ Expectation.parameterSpecifier.kinds)
    (widens : Widens could (nexts closedSentences [kind])) : could = {.keyword .self} := by
  rw [nexts_closed_single listed] at widens
  exact Set.Subset.antisymm (widens.alone rfl) widens.more

theorem typed_blamed (name : String) (colon : found.kind = .punctuation .colon) :
    Blamed closedSentences [.identifier] found.kind
      ((Refusal.typedParameter name).error found).fault := by
  intro could before widens _
  have alone := closing_alone (List.mem_cons_self ..) (widens (by simp [colon]))
  exact .inl ⟨alone, rfl, colon⟩

theorem named_type_blamed (named : found.kind = .identifier) :
    Blamed closedSentences [.punctuation .colon] found.kind
      (Refusal.namedType.error found).fault := by
  intro could before widens _
  have alone := closing_alone (by decide) (widens (by simp [named]))
  exact .inr (.inl ⟨alone, rfl, named⟩)

/-- What is neither a type behind a name nor a name behind a colon only lacks `self`. -/
theorem closing_blamed {kind : Token.Kind} (listed : kind ∈ Expectation.parameterSpecifier.kinds)
    (untyped : kind = .identifier → found.kind ≠ .punctuation .colon)
    (unnamed : kind = .punctuation .colon → found.kind ≠ .identifier) :
    Blamed closedSentences [kind] found.kind (Expectation.parameterClosing.error found).fault := by
  by_cases ended : found.kind = .endOfInput
  · exact Expectation.blamed_at_end ended
  intro could before widens _
  have alone := closing_alone listed (widens ended)
  rw [Expectation.error, if_pos (.inr (by decide))]
  constructor
  · intro deforms
    rcases deforms with ⟨-, named, colon⟩ | ⟨-, colon, named⟩ | ⟨-, named, -⟩
    · exact untyped (by simpa using named) colon
    · exact unnamed (by simpa using colon) named
    · simp [alone] at named
  · exact .inr (.inr ⟨.keyword .self, by decide, by simp [alone]⟩)

theorem read_eq : Specifier.read =
    (Parser.refuse (.keyword .self) .bareSelf >>= fun _ =>
      Parser.expect .parameterSpecifier >>= readBehind) := rfl

theorem read_behind_eq (token : Token) (input : Input) : readBehind token input =
    if token.kind = .identifier then
      if input.next.kind = .punctuation .colon then
        (.error ((Refusal.typedParameter token.lexeme).error input.next), input)
      else (.ok (.named (.ofToken token)), input)
    else if input.next.kind = .identifier then (.error (Refusal.namedType.error input.next), input)
    else (.ok .colon, input) := by
  unfold readBehind
  split
  · exact Parser.refuse_bind ..
  · exact Parser.refuse_bind ..

theorem behind_blamed {token : Token} {input rest : Input} {error : Error}
    (listed : token.kind ∈ Expectation.parameterSpecifier.kinds)
    (reply : readBehind token input = (.error error, rest)) :
    rest = input ∧ Blamed closedSentences [token.kind] input.next.kind error.fault := by
  rw [read_behind_eq] at reply
  split at reply
  case isTrue name =>
    split at reply
    case isTrue colon =>
      obtain ⟨rfl, rfl⟩ := Parser.error_inj reply
      exact ⟨rfl, name ▸ typed_blamed token.lexeme colon⟩
    case isFalse => exact absurd reply Parser.ok_ne_error
  case isFalse other =>
    have colon : token.kind = .punctuation .colon := by
      simpa [Expectation.kinds, other] using listed
    split at reply
    case isTrue named =>
      obtain ⟨rfl, rfl⟩ := Parser.error_inj reply
      exact ⟨rfl, colon ▸ named_type_blamed named⟩
    case isFalse => exact absurd reply Parser.ok_ne_error

/-- A specifier that was read is one token, and what it refuses does not stand behind it. -/
theorem of_read_ok {specifier : Specifier} {input rest : Input}
    (reply : Specifier.read input = (.ok specifier, rest)) : ∃ token,
      token.kind ∈ Expectation.parameterSpecifier.kinds ∧ input.tokens = token :: rest.tokens ∧
      (token.kind = .identifier → rest.next.kind ≠ .punctuation .colon) ∧
      (token.kind = .punctuation .colon → rest.next.kind ≠ .identifier) := by
  rw [read_eq, Parser.refuse_bind] at reply
  split at reply
  case isTrue => exact absurd reply Parser.error_ne_ok
  case isFalse =>
    obtain ⟨token, left, taken, behind⟩ := Parser.of_bind_ok reply
    obtain ⟨listed, after, tokens, rfl⟩ := Parser.expect_ok taken
    refine ⟨token, listed, ?_⟩
    rw [read_behind_eq] at behind
    split at behind
    case isTrue name =>
      split at behind
      case isTrue => exact absurd behind Parser.error_ne_ok
      case isFalse untyped =>
        obtain ⟨-, rfl⟩ := Prod.mk.inj behind
        exact ⟨tokens, fun _ => untyped, by simp [name]⟩
    case isFalse other =>
      split at behind
      case isTrue => exact absurd behind Parser.error_ne_ok
      case isFalse unnamed =>
        obtain ⟨-, rfl⟩ := Prod.mk.inj behind
        exact ⟨tokens, fun name => absurd name other, fun _ => unnamed⟩

theorem closed_blames_at {α : Type} (f : Specifier → Token → α) (input : Input) :
    (Specifier.read >>= fun specifier => f specifier <$> Parser.expect .parameterClosing).BlamesAt
      closedSentences input := by
  intro error rest failed
  rcases Parser.of_bind_error failed with inner | ⟨specifier, left, inner, closing⟩
  · rw [read_eq, Parser.refuse_bind] at inner
    split at inner
    case isTrue self =>
      obtain ⟨rfl, rfl⟩ := Parser.error_inj inner
      exact ⟨[], rfl, bare_self_blamed self⟩
    case isFalse other =>
      rcases Parser.of_bind_error inner with missed | ⟨token, left, taken, behind⟩
      · obtain ⟨-, rfl, rfl⟩ := Parser.expect_error missed
        exact ⟨[], rfl, specifier_blamed other⟩
      · obtain ⟨listed, after, tokens, rfl⟩ := Parser.expect_ok taken
        obtain ⟨rfl, blamed⟩ := behind_blamed listed behind
        exact ⟨[token], tokens, blamed⟩
  · obtain ⟨token, listed, tokens, untyped, unnamed⟩ := of_read_ok inner
    obtain ⟨-, rfl, rfl⟩ := Parser.expect_error (Parser.of_map_error closing)
    exact ⟨[token], tokens, closing_blamed listed untyped unnamed⟩

end Specifier

theorem Parameter.reading : FairReading Parameter.read Parameter.phrase anything
    ⟨false, [.keyword .const, .keyword .mutable, .identifier, .punctuation .colon], []⟩ := by
  let make (mutability : Option Mutability) (specifier : Specifier) (_ : Token)
      (location : Location) : Parameter := ⟨mutability, specifier, location⟩
  have same : Parameter.read = Parser.located (make <$> Mutability.read? <*> Specifier.read <*>
      Parser.expect .parameterClosing) := by
    simp only [Parameter.read, Parser.located, seq_eq_bind_map, map_eq_pure_bind, bind_assoc,
      pure_bind, make]
  have inside := (Mutability.reading.toReading.map make).seq Specifier.reading (by decide)
  have whole := inside.seq_before (Reading.expect .parameterClosing) (by decide) (by decide)
    (fun empty => absurd empty (by decide))
  have product : Phrase.sentences
      (make <$> Mutability.phrase.optional <*> Specifier.phrase <*> Phrase.keyword .self) =
        Mutability.phrase.optional.sentences * Specifier.closedSentences := by
    rw [Phrase.sentences_seq, Phrase.sentences_seq, Phrase.sentences_map, mul_assoc]
    rfl
  have blames : ∀ input, (make <$> Mutability.read? <*> Specifier.read <*>
      Parser.expect .parameterClosing).BlamesAt
        (Mutability.phrase.optional.sentences * Specifier.closedSentences) input := by
    intro input
    rw [seq_eq_bind_map, seq_eq_bind_map, bind_map_left, bind_assoc]
    simp only [bind_map_left]
    apply Mutability.reading.bind_blames_at _ Specifier.closed_outlined (by decide)
    exact fun mutability rest _ => Specifier.closed_blames_at (make mutability) rest
  rw [same]
  apply FairReading.located _ rfl
  refine ⟨whole, ?_, ?_⟩
  · exact product ▸ settled_mul Mutability.reading.settled Specifier.closed_settled
  · exact product ▸ blames

namespace ParameterList

variable {α : Type}

/-- An opening parenthesis that is closed at once is the one error that the token in front of it
tells. -/
theorem opening_blames_at (make : Token → Parameter → α) (input : Input) :
    (make <$> Parser.expect .parametersOpening <*>
      (do Parser.refuse (.punctuation .rightParen) .emptyParameterList; Parameter.read)).BlamesAt
        ((Phrase.mark .leftParen).sentences * Parameter.phrase.sentences) input := by
  have outlined : Outlines (Phrase.mark .leftParen).sentences _ :=
    Phrase.outlines_one_of (by simp)
  intro error rest failed
  rw [seq_eq_bind_map, bind_map_left] at failed
  rcases Parser.of_bind_error failed with missed | ⟨opening, left, taken, behind⟩
  · obtain ⟨-, rfl, rfl⟩ := Parser.expect_error missed
    have product := outlines_seq outlined Parameter.reading.outlined (by decide)
    exact ⟨[], rfl, Expectation.blamed_of_quiet product rfl (by decide) _⟩
  · obtain ⟨wanted, after, tokens, rfl⟩ := Parser.expect_ok taken
    have failed' := Parser.of_map_error behind
    rw [Parser.refuse_bind] at failed'
    split at failed'
    case isTrue closed =>
      obtain ⟨rfl, rfl⟩ := Parser.error_inj failed'
      have parenthesis : opening.kind = .punctuation .leftParen := List.mem_singleton.mp wanted
      refine ⟨[opening], tokens, ?_⟩
      intro could before _ _
      refine ⟨by simp [Deforms, closed], .inr (.inl ⟨closed, ?_⟩)⟩
      simp [parenthesis]
    case isFalse other =>
      obtain ⟨used, tokens', blamed⟩ := Parameter.reading.blames _ error rest failed'
      refine ⟨opening :: used, by simpa [tokens] using tokens', ?_⟩
      apply (run_token tokens wanted).blamed_behind tokens' blamed outlined
        Parameter.reading.outlined (by decide)
      · exact fun _ => by decide
      · intro none _ closed
        have same : rest.tokens = after := by simpa [none] using tokens'.symm
        have ahead := (next_kind_iff (by simp)).mp closed
        apply other
        rw [next_kind_iff (by simp), ← ahead, Input.ahead, Input.ahead, same]

theorem opening_reading (make : Token → Parameter → α) :
    FairReading (make <$> Parser.expect .parametersOpening <*>
        (do Parser.refuse (.punctuation .rightParen) .emptyParameterList; Parameter.read))
      (make <$> Phrase.mark .leftParen <*> Parameter.phrase) anything
      ⟨false, [.punctuation .leftParen], []⟩ := by
  have parameter := Reading.refuse_then (.punctuation .rightParen) .emptyParameterList
    Parameter.reading.toReading (by decide) (by decide) (fun empty => absurd empty (by decide))
  have product : Phrase.sentences (make <$> Phrase.mark .leftParen <*> Parameter.phrase) =
      (Phrase.mark .leftParen).sentences * Parameter.phrase.sentences := by
    rw [Phrase.sentences_seq, Phrase.sentences_map]
  refine ⟨?_, ?_, ?_⟩
  · exact ((Reading.expect .parametersOpening).map make).seq parameter (by decide)
  · exact product ▸ settled_mul_of_solid (Parameter.reading.outlined.not_nil rfl)
      Parameter.reading.settled
  · exact product ▸ opening_blames_at make

theorem reading : FairReading ParameterList.read ParameterList.phrase anything
    ⟨false, [.punctuation .leftParen], []⟩ := by
  have same : (ParameterList.read : Parser Input ParameterList) =
      (fun opening first others _ => ParameterList.mk (first :: others) opening.location) <$>
        Parser.expect .parametersOpening <*>
        (do Parser.refuse (.punctuation .rightParen) .emptyParameterList; Parameter.read) <*>
        Parser.manyWhile (· = .punctuation .comma) (do Parser.advance; Parameter.read) <*>
        Parser.expect .parametersClosing := by
    simp only [ParameterList.read, seq_eq_bind_map, map_eq_pure_bind, bind_assoc, pure_bind]
  have others := Parameter.reading.many_behind (.punctuation .comma) rfl (by decide) (by decide)
  rw [same]
  exact ((opening_reading _).seq others (by decide)).seq
    (.expect .parametersClosing (by decide) (by decide)) (by decide)

end ParameterList

end Sierra
