import Sierra.Proofs.Grammar.Loop

/-!
# Reading by combinators

`Reading parser phrase follow outline` collects what a rule of the grammar needs to know about the
parser of a part: the phrase it reads at every input, what may follow it, and the outline of the
phrase. Each way to put parsers together is matched by the way to put phrases together, and the
outline of the whole comes out by computation; that two parts are apart is then a comparison of two
lists.
-/

namespace Sierra

set_option autoImplicit false

variable {α β : Type} {left right : Outline Token.Kind}

namespace Phrase

theorem mem_sentences_one_of {kinds : List Token.Kind} {word : List Token.Kind} :
    word ∈ (oneOf kinds).sentences ↔ ∃ kind ∈ kinds, word = [kind] := by
  constructor
  · intro sentence
    obtain ⟨tokens, token, ⟨rfl, member⟩, rfl⟩ := sentence
    exact ⟨token.kind, member, rfl⟩
  · intro single
    obtain ⟨kind, member, rfl⟩ := single
    exact ⟨[⟨kind, "", Location.start none⟩], _, ⟨rfl, member⟩, rfl⟩

theorem outlines_one_of {kinds : List Token.Kind} (some : kinds ≠ []) :
    Outlines (oneOf kinds).sentences (Outline.oneOf kinds) := by
  constructor
  · obtain ⟨kind, member⟩ := List.exists_mem_of_ne_nil kinds some
    exact ⟨[kind], mem_sentences_one_of.mpr ⟨kind, member, rfl⟩⟩
  · intro sentence
    obtain ⟨kind, -, same⟩ := mem_sentences_one_of.mp sentence
    simp at same
  · intro kind viable
    obtain ⟨rest, sentence⟩ := viable
    obtain ⟨other, member, same⟩ := mem_sentences_one_of.mp sentence
    obtain ⟨rfl, -⟩ : kind = other ∧ rest = [] := by simpa using same
    exact member
  · intro word kind sentence viable
    obtain ⟨rest, longer⟩ := viable
    obtain ⟨first, -, rfl⟩ := mem_sentences_one_of.mp sentence
    obtain ⟨other, -, same⟩ := mem_sentences_one_of.mp longer
    simp at same

theorem sentences_located {phrase : Phrase (Location → α)} (solid : [] ∉ phrase.sentences) :
    phrase.located.sentences = phrase.sentences := by
  apply Language.ext
  intro word
  constructor
  · intro sentence
    obtain ⟨tokens, value, ⟨token, rest, f, -, derived, -⟩, rfl⟩ := sentence
    exact kinds_mem_sentences derived
  · intro sentence
    obtain ⟨tokens, f, derived, rfl⟩ := sentence
    cases tokens with
    | nil => exact absurd (kinds_mem_sentences derived) solid
    | cons token rest =>
        exact ⟨token :: rest, f token.location, ⟨token, rest, f, rfl, derived, rfl⟩, rfl⟩

theorem sentences_behind (kind : Token.Kind) (phrase : Phrase α) :
    (behind kind phrase).sentences = (oneOf [kind]).sentences * phrase.sentences :=
  sentences_bind fun _ _ _ => rfl

/-- A token in front cannot go on, so anything may stand behind it. -/
theorem outlines_behind (kind : Token.Kind) {phrase : Phrase α}
    (outlined : Outlines phrase.sentences left) :
    Outlines (behind kind phrase).sentences ((Outline.oneOf [kind]).seq left) := by
  rw [sentences_behind]
  exact outlines_seq (outlines_one_of (by simp)) outlined (by simp [Outline.Apart, Outline.oneOf])

end Phrase

structure Reading (parser : Parser Input α) (phrase : Phrase α) (follow : Follow)
    (outline : Outline Token.Kind) : Prop where
  outlined : Outlines phrase.sentences outline
  reads : ∀ input, parser.ReadsAt phrase follow input

namespace Reading

theorem map {parser : Parser Input α} {phrase : Phrase α} {follow : Follow} (f : α → β)
    (reading : Reading parser phrase follow left) :
    Reading (f <$> parser) (f <$> phrase) follow left :=
  ⟨Phrase.sentences_map f phrase ▸ reading.outlined,
    fun input => reads_at_map f (reading.reads input)⟩

theorem mono {parser : Parser Input α} {phrase : Phrase α} {near far : Follow}
    (reading : Reading parser phrase near left) (follows : ∀ ahead, far ahead → near ahead) :
    Reading parser phrase far left := by
  refine ⟨reading.outlined, ?_⟩
  intro input
  obtain ⟨used, run⟩ := reading.reads input
  refine ⟨used, run.tokens, run.finish, run.viable, run.maximal, run.accepted, ?_⟩
  intro error answer
  obtain ⟨location, refused⟩ := run.rejected error answer
  exact ⟨location, fun sentence follow => refused sentence (follows _ follow)⟩

theorem bind {first : Parser Input α} {second : α → Parser Input β} {phrase : Phrase α}
    {phrase' : α → Phrase β} {language : Language Token.Kind} {near far : Follow}
    (reading : Reading first phrase near left) (outlined : Outlines language right)
    (uniform : ∀ value, (phrase' value).sentences = language)
    (reads : ∀ value input, (second value).ReadsAt (phrase' value) far input)
    (apart : left.Apart right) (leads : ∀ kind ∈ right.first, near (some kind))
    (through : right.empty = true → ∀ ahead, far ahead → near ahead) :
    Reading (first >>= second) (phrase.bind phrase') far (left.seq right) := by
  constructor
  · rw [Phrase.sentences_bind fun _ value _ => uniform value]
    exact outlines_seq reading.outlined outlined apart
  · intro input
    apply reads_at_bind (reading.reads input)
    · exact fun _ value rest _ _ => reads value rest
    · exact fun _ value _ => uniform value
    · exact outlined.inhabited
    · exact reading.outlined.apart outlined apart
    · exact fun kind viable => leads kind (outlined.first kind viable)
    · exact fun empty => through (outlined.empty empty)

section Sequence

variable {first : Parser Input (α → β)} {second : Parser Input α} {phrase : Phrase (α → β)}
  {phrase' : Phrase α} {near far : Follow}

theorem seq_before (reading : Reading first phrase near left)
    (reading' : Reading second phrase' far right) (apart : left.Apart right)
    (leads : ∀ kind ∈ right.first, near (some kind))
    (through : right.empty = true → ∀ ahead, far ahead → near ahead) :
    Reading (first <*> second) (phrase <*> phrase') far (left.seq right) := by
  rw [Phrase.seq_eq_bind, seq_eq_bind_map]
  apply reading.bind reading'.outlined
  · exact fun f => Phrase.sentences_map f phrase'
  · exact fun f input => reads_at_map f (reading'.reads input)
  · exact apart
  · exact leads
  · exact through

theorem seq (reading : Reading first phrase anything left)
    (reading' : Reading second phrase' far right) (apart : left.Apart right) :
    Reading (first <*> second) (phrase <*> phrase') far (left.seq right) :=
  reading.seq_before reading' apart (fun _ _ => trivial) (fun _ _ _ => trivial)

end Sequence

end Reading

theorem Expectation.kinds_ne_nil (wanted : Expectation) : wanted.kinds ≠ [] := by
  cases wanted <;> simp [Expectation.kinds]

theorem Expectation.end_not_wanted (wanted : Expectation) : .endOfInput ∉ wanted.kinds := by
  cases wanted <;> simp [Expectation.kinds]

theorem Expectation.error_location (wanted : Expectation) (found : Token) :
    (wanted.error found).location = found.location := by
  unfold Expectation.error
  split <;> rfl

theorem run_token {allowed : List Token.Kind} {input : Input} {token : Token} {rest : List Token}
    (tokens : input.tokens = token :: rest) (fits : token.kind ∈ allowed) :
    Run (.oneOf allowed) anything input [token] (.ok token, ⟨rest, input.finish⟩) := by
  have outlined := Phrase.outlines_one_of (List.ne_nil_of_mem fits)
  have sentence := Phrase.mem_sentences_one_of.mpr ⟨token.kind, fits, rfl⟩
  refine ⟨by simp [tokens], rfl, viable_of_mem sentence, ?_, ?_, by simp⟩
  · intro kind _ viable
    exact absurd (outlined.next _ kind sentence viable) List.not_mem_nil
  · intro value answer other
    obtain rfl : token = value := by simpa using answer
    constructor
    · intro single
      exact (List.cons.inj single.1).1.symm
    · intro same
      exact ⟨by rw [same], same ▸ fits⟩

namespace Parser

/-- Gives what is read the location of the token it begins with. -/
def located (parser : Parser Input (Location → α)) : Parser Input α := do
  let opening ← next
  (fun f => f opening.location) <$> parser

theorem take_of_tokens {input : Input} {token : Token} {rest : List Token}
    (tokens : input.tokens = token :: rest) : take input = (.ok token, ⟨rest, input.finish⟩) := by
  rw [take_eq, next_of_tokens tokens]
  simp [Input.rest, tokens]

theorem take_reads_at {allowed : List Token.Kind} {input : Input} {kind : Token.Kind}
    (ahead : input.ahead = some kind) (fits : kind ∈ allowed) :
    take.ReadsAt (.oneOf allowed) anything input := by
  obtain ⟨token, rest, tokens, rfl⟩ := ahead_eq_some ahead
  refine ⟨[token], ?_⟩
  rw [take_of_tokens tokens]
  exact run_token tokens fits

theorem expect_of_mem {wanted : Expectation} {input : Input} {token : Token} {rest : List Token}
    (tokens : input.tokens = token :: rest) (member : token.kind ∈ wanted.kinds) :
    expect wanted input = (.ok token, ⟨rest, input.finish⟩) := by
  have found : input.next = token := next_of_tokens tokens
  rw [← take_of_tokens tokens, expect, next_bind, if_pos (found ▸ member)]

theorem expect_ok {wanted : Expectation} {input rest : Input} {token : Token}
    (reply : expect wanted input = (.ok token, rest)) : token.kind ∈ wanted.kinds ∧
      ∃ after, input.tokens = token :: after ∧ rest = ⟨after, input.finish⟩ := by
  rw [expect, next_bind] at reply
  split at reply
  case isTrue member =>
    rw [take_eq] at reply
    obtain ⟨same, rfl⟩ := Prod.mk.inj reply
    obtain rfl := Except.ok.inj same
    cases tokens : input.tokens with
    | nil =>
        have ended : input.next.kind = .endOfInput := by simp [Input.next, tokens, Token.endOfInput]
        exact absurd (ended ▸ member) wanted.end_not_wanted
    | cons token after =>
        rw [next_of_tokens tokens] at member ⊢
        exact ⟨member, after, rfl, by simp [Input.rest, tokens]⟩
  case isFalse => exact absurd reply error_ne_ok

theorem expect_error {wanted : Expectation} {input rest : Input} {error : Error}
    (reply : expect wanted input = (.error error, rest)) :
    input.next.kind ∉ wanted.kinds ∧ error = wanted.error input.next ∧ rest = input := by
  rw [expect, next_bind] at reply
  split at reply
  case isTrue => exact absurd reply ok_ne_error
  case isFalse other =>
    obtain ⟨rfl, rfl⟩ := error_inj reply
    exact ⟨other, rfl, rfl⟩

theorem refuse_eq (kind : Token.Kind) (refusal : Refusal) (input : Input) :
    refuse kind refusal input =
      if input.next.kind = kind then (.error (refusal.error input.next), input)
      else (.ok (), input) := by
  rw [refuse, next_bind]
  split <;> rfl

theorem refuse_bind (kind : Token.Kind) (refusal : Refusal) (second : Unit → Parser Input α)
    (input : Input) : (refuse kind refusal >>= second) input =
      if input.next.kind = kind then (.error (refusal.error input.next), input)
      else second () input := by
  by_cases refused : input.next.kind = kind
  · rw [if_pos refused]
    exact bind_of_error (by rw [refuse_eq, if_pos refused])
  · rw [if_neg refused]
    exact bind_of_ok (by rw [refuse_eq, if_neg refused])

theorem expect_of_not_mem {wanted : Expectation} {input : Input}
    (other : input.next.kind ∉ wanted.kinds) :
    expect wanted input = (.error (wanted.error input.next), input) := by
  rw [expect, next_bind, if_neg other]
  rfl

/-- A token is read as one of the kinds allowed, as far as those differ from the kinds wanted only
in what is not at hand. -/
theorem expect_reads_at {wanted : Expectation} {allowed : List Token.Kind} {input : Input}
    (agree : ∀ kind, input.ahead = some kind → (kind ∈ wanted.kinds ↔ kind ∈ allowed))
    (some : allowed ≠ []) : (expect wanted).ReadsAt (.oneOf allowed) anything input := by
  have outlined := Phrase.outlines_one_of some
  by_cases member : input.next.kind ∈ wanted.kinds
  · cases tokens : input.tokens with
    | nil =>
        have ended : input.next.kind = .endOfInput := by simp [Input.next, tokens, Token.endOfInput]
        exact absurd (ended ▸ member) wanted.end_not_wanted
    | cons token rest =>
        have found : input.next = token := next_of_tokens tokens
        rw [found] at member
        have fits : token.kind ∈ allowed := (agree token.kind (head_ahead tokens)).mp member
        refine ⟨[token], ?_⟩
        rw [expect_of_mem tokens member]
        exact run_token tokens fits
  · refine ⟨[], ?_⟩
    rw [expect_of_not_mem member]
    have unfit : ∀ kind, input.ahead = .some kind → kind ∉ allowed := by
      intro kind ahead fits
      obtain ⟨token, rest, tokens, rfl⟩ := ahead_eq_some ahead
      rw [next_of_tokens tokens] at member
      exact member ((agree token.kind ahead).mpr fits)
    apply run_fail (wanted.error_location input.next) outlined.inhabited
    · intro kind ahead viable
      exact unfit kind ahead (outlined.first kind viable)
    · intro empty
      exact absurd empty (outlined.not_nil rfl)

/-- The token that is read first may decide what is read behind it. -/
theorem expect_bind_reads_at {wanted : Expectation} {allowed : List Token.Kind} {input : Input}
    {second : Token → Parser Input α} {phrase : Token → Phrase α} {far : Follow}
    {language : Language Token.Kind}
    (agree : ∀ kind, input.ahead = some kind → (kind ∈ wanted.kinds ↔ kind ∈ allowed))
    (some : allowed ≠ []) (inhabited : ∃ word, word ∈ language)
    (uniform : ∀ token, token.kind ∈ allowed → (phrase token).sentences = language)
    (reads : ∀ token rest, token.kind ∈ allowed →
      (second token).ReadsAt (phrase token) far rest) :
    (expect wanted >>= second).ReadsAt ((Phrase.oneOf allowed).bind phrase) far input := by
  have outlined := Phrase.outlines_one_of some
  apply reads_at_bind (expect_reads_at agree some)
  · intro front token rest _ single
    exact reads token rest single.2
  · intro tokens token single
    exact uniform token single.2
  · exact inhabited
  · intro word kind sentence goesOn
    exact absurd (outlined.next word kind sentence goesOn) List.not_mem_nil
  · exact fun _ _ => trivial
  · exact fun _ _ _ => trivial

end Parser

theorem reads_at_either {parser : Parser Input α} {first second : Phrase α} {follow : Follow}
    {input : Input} {kind : Token.Kind} (outlined : Outlines first.sentences left)
    (outlined' : Outlines second.sentences right) (solid : left.empty = false)
    (solid' : right.empty = false) (opening : left.first = [kind]) (other : kind ∉ right.first)
    (reads : input.ahead = some kind → parser.ReadsAt first follow input)
    (reads' : input.ahead ≠ some kind → parser.ReadsAt second follow input) :
    parser.ReadsAt (first <|> second) follow input := by
  have full := outlined.not_nil solid
  have full' := outlined'.not_nil solid'
  by_cases ahead : input.ahead = some kind
  · apply reads_at_either_left (reads ahead) full full'
    intro present now begins
    obtain rfl : kind = present := by simpa [ahead] using now
    exact other (outlined'.first kind begins)
  · apply reads_at_either_right (reads' ahead) full full'
    intro present now begins
    have same := outlined.first present begins
    simp only [opening, List.mem_singleton] at same
    exact ahead (by rw [now, same])

namespace Reading

theorem expect (wanted : Expectation) :
    Reading (Parser.expect wanted) (.oneOf wanted.kinds) anything (.oneOf wanted.kinds) :=
  ⟨Phrase.outlines_one_of wanted.kinds_ne_nil,
    fun _ => Parser.expect_reads_at (fun _ _ => Iff.rfl) wanted.kinds_ne_nil⟩

theorem pure (value : α) :
    Reading (Pure.pure value) (Pure.pure value) anything ⟨true, [], []⟩ := by
  have outlined : Outlines (Pure.pure value : Phrase α).sentences ⟨true, [], []⟩ := by
    rw [Phrase.sentences_pure]
    exact outlines_one
  refine ⟨outlined, ?_⟩
  intro input
  refine ⟨[], run_stay (by simp) ?_⟩
  intro kind _ viable
  exact absurd (outlined.first kind viable) List.not_mem_nil

/-- A refusal reads nothing, and nothing of the refused kind may follow. -/
theorem refuse {kind : Token.Kind} (refusal : Refusal) (inside : kind ≠ .endOfInput) :
    Reading (Parser.refuse kind refusal) (Pure.pure ()) (· ≠ some kind) ⟨true, [], []⟩ := by
  have outlined := (pure ()).outlined
  have stops : ∀ other, ¬Viable (Pure.pure () : Phrase Unit).sentences [other] :=
    fun other viable => absurd (outlined.first other viable) List.not_mem_nil
  refine ⟨outlined, ?_⟩
  intro input
  refine ⟨[], ?_⟩
  by_cases refused : input.next.kind = kind
  · rw [Parser.refuse_eq, if_pos refused]
    apply run_fail rfl outlined.inhabited (fun other _ => stops other)
    exact fun _ follows => follows ((next_kind_iff inside).mp refused)
  · rw [Parser.refuse_eq, if_neg refused]
    exact run_stay (by simp) (fun other _ => stops other)

/-- A refusal in front of a part says no more than that what it refuses cannot begin the part. -/
theorem refuse_then (kind : Token.Kind) {part : Parser Input α} {phrase : Phrase α} {far : Follow}
    (refusal : Refusal) (reading : Reading part phrase far right) (inside : kind ≠ .endOfInput)
    (outside : kind ∉ right.first)
    (through : right.empty = true → ∀ ahead, far ahead → ahead ≠ some kind) :
    Reading (do Parser.refuse kind refusal; part) phrase far right := by
  have nothing := Reading.refuse refusal inside
  refine ⟨reading.outlined, ?_⟩
  intro input
  have both : (Parser.refuse kind refusal >>= fun _ => part).ReadsAt
      ((Pure.pure () : Phrase Unit).bind fun _ => phrase) far input := by
    apply reads_at_bind (nothing.reads input)
    · exact fun _ _ rest _ _ => reading.reads rest
    · exact fun _ _ _ => rfl
    · exact reading.outlined.inhabited
    · exact nothing.outlined.apart reading.outlined (by simp [Outline.Apart])
    · intro other viable same
      exact outside (Option.some_inj.mp same ▸ reading.outlined.first other viable)
    · exact fun empty => through (reading.outlined.empty empty)
  rwa [Phrase.pure_bind] at both

section Optional

variable {kind : Token.Kind} {part : Parser Input α} {phrase : Phrase α} {follow : Follow}

theorem optional (item : Parser Input α) {parser : Parser Input (Option α)}
    (outlined : Outlines phrase.sentences left) (solid : left.empty = false)
    (begins : ∀ kind ∈ left.first, Viable phrase.sentences [kind])
    (present : ∀ input kind, input.ahead = some kind → kind ∈ left.first →
      parser input = (some <$> item) input ∧ item.ReadsAt phrase follow input)
    (absent : ∀ input, (∀ kind ∈ left.first, input.ahead ≠ some kind) →
      parser input = (.ok none, input)) :
    Reading parser phrase.optional follow left.optional := by
  have mapped := Phrase.sentences_map some phrase
  have full : [] ∉ (some <$> phrase).sentences := mapped ▸ outlined.not_nil solid
  constructor
  · rw [Phrase.sentences_optional]
    exact outlines_optional outlined
  · intro input
    rw [Phrase.optional_unfold]
    by_cases there : ∃ kind ∈ left.first, input.ahead = some kind
    · obtain ⟨kind, member, ahead⟩ := there
      obtain ⟨same, reads⟩ := present input kind ahead member
      apply reads_at_congr same
      apply reads_at_present (reads_at_map some reads) full
      · exact fun _ => ⟨kind, ahead, mapped ▸ begins kind member⟩
      · exact fun _ follows => follows
    · have passed := absent input fun kind member ahead => there ⟨kind, member, ahead⟩
      refine ⟨[], ?_⟩
      rw [passed]
      apply run_absent full
      exact fun kind ahead viable => there ⟨kind, outlined.first kind (mapped ▸ viable), ahead⟩

theorem read_if (kind : Token.Kind) (outlined : Outlines phrase.sentences left)
    (solid : left.empty = false) (opening : left.first = [kind]) (inside : kind ≠ .endOfInput)
    (reads : ∀ input, input.ahead = some kind → part.ReadsAt phrase follow input) :
    Reading (Parser.readIf kind part) phrase.optional follow left.optional := by
  apply optional part outlined solid
  · intro other first
    obtain rfl : other = kind := by simpa [opening] using first
    exact outlined.viable_of_first solid opening
  · intro input other ahead first
    obtain rfl : other = kind := by simpa [opening] using first
    refine ⟨?_, reads input ahead⟩
    rw [Parser.readIf, Parser.next_bind, if_pos ((next_kind_iff inside).mpr ahead)]
  · intro input away
    have other : input.next.kind ≠ kind := by
      rw [Ne, next_kind_iff inside]
      exact away kind (by simp [opening])
    rw [Parser.readIf, Parser.next_bind, if_neg other]
    rfl

theorem behind_reads_at (reading : Reading part phrase follow left) {input : Input}
    (ahead : input.ahead = some kind) :
    (do Parser.advance; part).ReadsAt (phrase.behind kind) follow input := by
  have outlined := Phrase.outlines_one_of (List.cons_ne_nil kind [])
  have apart : (Outline.oneOf [kind]).Apart left := by simp [Outline.Apart, Outline.oneOf]
  have same : (do Parser.advance; part) input = (Parser.take >>= fun _ => part) input := rfl
  apply reads_at_congr same
  apply reads_at_bind (Parser.take_reads_at ahead (List.mem_singleton_self kind))
  · exact fun _ _ rest _ _ => reading.reads rest
  · exact fun _ _ _ => rfl
  · exact reading.outlined.inhabited
  · exact outlined.apart reading.outlined apart
  · exact fun _ _ => trivial
  · exact fun _ _ _ => trivial

end Optional

theorem consumes_of_reads {more : Token.Kind → Bool} {item : Parser Input α} {phrase : Phrase α}
    {near : Follow} (reads : ∀ input kind, input.ahead = some kind → more kind = true →
      item.ReadsAt phrase near input) (solid : [] ∉ phrase.sentences) :
    Parser.Consumes more (Parser.collect item) :=
  Parser.consumes_collect fun input kind _ _ ahead goes reply =>
    reads_at_shorter (reads input kind ahead goes) solid reply

theorem consumes {item : Parser Input α} {phrase : Phrase α} {near : Follow}
    (reading : Reading item phrase near left) (solid : left.empty = false)
    (more : Token.Kind → Bool) : Parser.Consumes more (Parser.collect item) :=
  consumes_of_reads (fun input _ _ _ => reading.reads input) (reading.outlined.not_nil solid)

theorem consumes_behind (kind : Token.Kind) {item : Parser Input α} {phrase : Phrase α}
    (reading : Reading item phrase anything left) :
    Parser.Consumes (· = kind) (Parser.collect (do Parser.advance; item)) := by
  have outlined := Phrase.outlines_behind kind reading.outlined
  have reads : ∀ input other, Input.ahead input = some other → decide (other = kind) = true →
      (do Parser.advance; item).ReadsAt (phrase.behind kind) anything input := by
    intro input other ahead same
    obtain rfl : other = kind := by simpa using same
    exact reading.behind_reads_at ahead
  exact consumes_of_reads reads (outlined.not_nil rfl)

theorem many {more : Token.Kind → Bool} {item : Parser Input α} {phrase : Phrase α} {far : Follow}
    (outlined : Outlines phrase.sentences left) (solid : left.empty = false)
    (apart : left.Apart left)
    (reads : ∀ input kind, input.ahead = some kind → more kind = true →
      item.ReadsAt phrase anything input)
    (heads : ∀ kind ∈ left.first, more kind = true)
    (begins : ∀ kind, more kind = true → far (some kind) → Viable phrase.sentences [kind]) :
    Reading (Parser.manyWhile more item) phrase.many far left.many := by
  have outlined' : Outlines phrase.many.sentences left.many := by
    rw [Phrase.sentences_many]
    exact outlines_many outlined apart
  have apart' : left.Apart left.many := apart
  have round : Outlines (List.cons <$> phrase <*> phrase.many).sentences (left.seq left.many) := by
    rw [Phrase.sentences_seq, Phrase.sentences_map]
    exact outlines_seq outlined outlined' apart'
  have solid' : (left.seq left.many).empty = false := by simp [Outline.seq, solid]
  have consumes := consumes_of_reads reads (outlined.not_nil solid)
  refine ⟨outlined', ?_⟩
  intro input
  induction length : input.tokens.length using Nat.strong_induction_on generalizing input with
  | _ size induction =>
  by_cases go : input.ahead.any more = true
  · obtain ⟨kind, ahead, goes⟩ := (Option.any_eq_true _ _).mp go
    have again : (List.cons <$> item <*> Parser.manyWhile more item).ReadsAt
        (List.cons <$> phrase <*> phrase.many) far input := by
      rw [Phrase.seq_eq_bind, seq_eq_bind_map]
      apply reads_at_bind (reads_at_map List.cons (reads input kind ahead goes))
      · intro front f rest tokens derived
        obtain ⟨value, derived, -⟩ := derived
        have taken : front ≠ [] := by
          intro none
          subst none
          exact outlined.not_nil solid (Phrase.kinds_mem_sentences derived)
        have shorter : rest.tokens.length < size := by
          have some := List.length_pos_iff.mpr taken
          simp only [← length, tokens, List.length_append]
          omega
        exact reads_at_map f (induction _ shorter rest rfl)
      · exact fun _ f _ => Phrase.sentences_map f phrase.many
      · exact outlined'.inhabited
      · exact Phrase.sentences_map List.cons phrase ▸ outlined.apart outlined' apart'
      · exact fun _ _ => trivial
      · exact fun _ _ _ => trivial
    apply reads_at_congr (Parser.many_while_go consumes go)
    rw [Phrase.many_unfold]
    apply reads_at_present again (round.not_nil solid')
    · intro follows
      refine ⟨kind, ahead, ?_⟩
      rw [Phrase.sentences_seq, Phrase.sentences_map]
      exact viable_mul_left (begins kind goes (ahead ▸ follows)) outlined'.inhabited
    · exact fun _ follows => follows
  · have stop : input.ahead.any more = false := by simpa using go
    refine ⟨[], ?_⟩
    rw [Parser.many_while_stop item stop, Phrase.many_unfold]
    apply run_absent (round.not_nil solid')
    intro kind ahead viable
    have first : kind ∈ left.first := by
      simpa [Outline.seq, solid] using round.first kind viable
    simp [ahead, heads kind first] at stop

theorem located {parser : Parser Input (Location → α)} {phrase : Phrase (Location → α)}
    {follow : Follow} (reading : Reading parser phrase follow left) (solid : left.empty = false) :
    Reading (Parser.located parser) phrase.located follow left := by
  have full := reading.outlined.not_nil solid
  have same : phrase.located.sentences = phrase.sentences := Phrase.sentences_located full
  refine ⟨same ▸ reading.outlined, ?_⟩
  intro input
  obtain ⟨used, run⟩ := reads_at_map (fun f => f input.next.location) (reading.reads input)
  have mapped := Phrase.sentences_map (fun f => f input.next.location) phrase
  refine ⟨used, run.tokens, run.finish, ?_, ?_, ?_, ?_⟩
  · exact same ▸ mapped ▸ run.viable
  · exact same ▸ mapped ▸ run.maximal
  · intro value answer other
    have accepted := run.accepted value answer
    obtain ⟨f, derived, -⟩ := (accepted value).mpr rfl
    cases used with
    | nil => exact absurd (Phrase.kinds_mem_sentences derived) full
    | cons token used =>
        have opening : input.next = token := next_of_tokens run.tokens
        rw [← accepted other, opening]
        constructor
        · intro derivation
          obtain ⟨first, rest, f', begins, derived', result⟩ := derivation
          obtain ⟨rfl, -⟩ := List.cons.inj begins
          exact ⟨f', derived', result⟩
        · intro derivation
          obtain ⟨f', derived', result⟩ := derivation
          exact ⟨token, used, f', rfl, derived', result⟩
  · exact same ▸ mapped ▸ run.rejected

end Reading

end Sierra
