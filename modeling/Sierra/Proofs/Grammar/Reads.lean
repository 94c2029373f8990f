import Sierra.Grammar.Parser
import Sierra.Proofs.Grammar.Phrase

/-!
# Parsers that read a phrase

A parser reads a phrase when it takes the longest viable prefix of its input, answers the one value
that the tokens taken stand for, and otherwise fails at the token that no sentence has in its place.
A parser may also give up on a whole sentence, but only in front of a token that cannot follow the
phrase where the phrase is used. Parsers that read phrases compose as the phrases do, as long as the
phrases are apart.
-/

namespace Sierra

set_option autoImplicit false

variable {α β : Type}

def Input.ahead (input : Input) : Option Token.Kind :=
  input.tokens.head?.map (·.kind)

/-- What may stand behind a phrase. -/
abbrev Follow : Type :=
  Option Token.Kind → Prop

def anything : Follow := fun _ => True

/-- A reply that takes the tokens `used` from the input and reads `phrase` in them. -/
structure Run (phrase : Phrase α) (follow : Follow) (input : Input) (used : List Token)
    (reply : Except Error α × Input) : Prop where
  tokens : input.tokens = used ++ reply.2.tokens
  finish : reply.2.finish = input.finish
  viable : Viable phrase.sentences (kinds used)
  maximal : ∀ kind, reply.2.ahead = some kind → ¬Viable phrase.sentences (kinds used ++ [kind])
  accepted : ∀ value, reply.1 = .ok value → ∀ other, phrase used other ↔ other = value
  rejected : ∀ error, reply.1 = .error error → error.location = reply.2.next.location ∧
    (kinds used ∈ phrase.sentences → ¬follow reply.2.ahead)

def Parser.ReadsAt (parser : Parser Input α) (phrase : Phrase α) (follow : Follow) (input : Input) :
    Prop :=
  ∃ used, Run phrase follow input used (parser input)

namespace Parser

section Monad

variable {σ γ : Type} {first : Parser σ α} {second : α → Parser σ β} {stream rest : σ}

theorem bind_of_ok {value : α} (reply : first stream = (.ok value, rest)) :
    (first >>= second) stream = second value rest := by
  change Parser.bind first second stream = _
  simp only [Parser.bind, reply]

theorem bind_of_error {error : Error} (reply : first stream = (.error error, rest)) :
    (first >>= second) stream = (.error error, rest) := by
  change Parser.bind first second stream = _
  simp only [Parser.bind, reply]

private theorem id_map_eq (parser : Parser σ α) : id <$> parser = parser := by
  funext stream
  cases reply : parser stream with
  | mk answer rest =>
      cases answer with
      | error error => exact bind_of_error reply
      | ok value => exact bind_of_ok reply

private theorem bind_assoc_eq (first : Parser σ α) (second : α → Parser σ β)
    (third : β → Parser σ γ) :
    first >>= second >>= third = first >>= fun value => second value >>= third := by
  funext stream
  cases reply : first stream with
  | mk answer rest =>
      cases answer with
      | error error => rw [bind_of_error reply, bind_of_error (bind_of_error reply)]
      | ok value =>
          have inner : (first >>= second) stream = second value rest := bind_of_ok reply
          rw [bind_of_ok reply]
          change Parser.bind (first >>= second) third stream = Parser.bind (second value) third rest
          simp only [Parser.bind, inner]

instance : LawfulMonad (Parser σ) :=
  LawfulMonad.mk' (Parser σ) id_map_eq (fun _ _ => rfl) bind_assoc_eq

end Monad

section Replies

variable {value : α} {error error' : Error} {input rest : Input}

theorem error_inj
    (same : ((.error error, input) : Except Error α × Input) = (.error error', rest)) :
    error = error' ∧ input = rest := by
  simpa using same

theorem ok_ne_error : ((.ok value, input) : Except Error α × Input) ≠ (.error error, rest) := by
  simp

theorem error_ne_ok : ((.error error, input) : Except Error α × Input) ≠ (.ok value, rest) := by
  simp

end Replies

theorem of_bind_ok {first : Parser Input α} {second : α → Parser Input β} {input rest : Input}
    {value : β} (reply : (first >>= second) input = (.ok value, rest)) : ∃ middle left,
      first input = (.ok middle, left) ∧ second middle left = (.ok value, rest) := by
  cases inner : first input with
  | mk answer left =>
      cases answer with
      | error error => simp [bind_of_error inner] at reply
      | ok middle => exact ⟨middle, left, rfl, (bind_of_ok inner).symm.trans reply⟩

theorem of_seq_ok {first : Parser Input (α → β)} {second : Parser Input α} {input rest : Input}
    {value : β} (reply : (first <*> second) input = (.ok value, rest)) :
    ∃ left other, second left = (.ok other, rest) := by
  have unfolded : (first >>= fun f => Parser.bind second fun part => Parser.pure (f part)) input =
      (.ok value, rest) := reply
  obtain ⟨f, left, -, reply'⟩ := of_bind_ok unfolded
  obtain ⟨other, left', inner, done⟩ := of_bind_ok reply'
  obtain ⟨-, rfl⟩ := Prod.mk.inj done
  exact ⟨left, other, inner⟩

theorem of_bind_error {first : Parser Input α} {second : α → Parser Input β} {input rest : Input}
    {error : Error} (reply : (first >>= second) input = (.error error, rest)) :
    first input = (.error error, rest) ∨ ∃ middle left,
      first input = (.ok middle, left) ∧ second middle left = (.error error, rest) := by
  cases inner : first input with
  | mk answer left =>
      cases answer with
      | error other =>
          obtain ⟨rfl, rfl⟩ := error_inj ((bind_of_error inner).symm.trans reply)
          exact .inl rfl
      | ok middle => exact .inr ⟨middle, left, rfl, (bind_of_ok inner).symm.trans reply⟩

theorem of_map_error {parser : Parser Input α} {f : α → β} {input rest : Input} {error : Error}
    (reply : (f <$> parser) input = (.error error, rest)) :
    parser input = (.error error, rest) := by
  rcases of_bind_error reply with inner | ⟨value, left, -, done⟩
  · exact inner
  · exact absurd done ok_ne_error

theorem next_bind (second : Token → Parser Input β) (input : Input) :
    (next >>= second) input = second input.next input := rfl

theorem take_eq (input : Input) : take input = (.ok input.next, input.rest) := rfl

end Parser

theorem head_ahead {input : Input} {tokens : List Token} {token : Token}
    (same : input.tokens = token :: tokens) : input.ahead = some token.kind := by
  simp [Input.ahead, same]

theorem ahead_eq_some {input : Input} {kind : Token.Kind} (ahead : input.ahead = some kind) :
    ∃ token rest, input.tokens = token :: rest ∧ token.kind = kind := by
  cases tokens : input.tokens with
  | nil => simp [Input.ahead, tokens] at ahead
  | cons token rest => exact ⟨token, rest, rfl, by simpa [Input.ahead, tokens] using ahead⟩

theorem next_of_tokens {input : Input} {token : Token} {rest : List Token}
    (tokens : input.tokens = token :: rest) : input.next = token := by
  simp [Input.next, tokens]

theorem next_kind_iff {input : Input} {kind : Token.Kind} (inside : kind ≠ .endOfInput) :
    input.next.kind = kind ↔ input.ahead = some kind := by
  cases tokens : input.tokens with
  | nil =>
      have ended : input.next.kind = .endOfInput := by simp [Input.next, tokens, Token.endOfInput]
      rw [ended]
      simp [Input.ahead, tokens, Ne.symm inside]
  | cons token rest => rw [next_of_tokens tokens, head_ahead tokens, Option.some_inj]

theorem next_ended {input : Input} (ended : input.ahead = none) :
    input.next.kind = .endOfInput := by
  have tokens : input.tokens = [] := by simpa [Input.ahead] using ended
  simp [Input.next, tokens, Token.endOfInput]

/-- A reply that takes nothing, where nothing that is at hand begins the phrase. -/
theorem run_stay {phrase : Phrase α} {follow : Follow} {input : Input} {value : α}
    (derived : ∀ other, phrase [] other ↔ other = value)
    (stops : ∀ kind, input.ahead = some kind → ¬Viable phrase.sentences [kind]) :
    Run phrase follow input [] (.ok value, input) := by
  refine ⟨rfl, rfl, ?_, stops, ?_, by simp⟩
  · exact viable_of_mem (Phrase.kinds_mem_sentences ((derived value).mpr rfl))
  · intro result answer
    obtain rfl : value = result := by simpa using answer
    exact derived

/-- A failure at the token at hand, which does not begin the phrase. -/
theorem run_fail {phrase : Phrase α} {follow : Follow} {input : Input} {error : Error}
    (location : error.location = input.next.location)
    (inhabited : ∃ word, word ∈ phrase.sentences)
    (stops : ∀ kind, input.ahead = some kind → ¬Viable phrase.sentences [kind])
    (refused : [] ∈ phrase.sentences → ¬follow input.ahead) :
    Run phrase follow input [] (.error error, input) := by
  obtain ⟨word, sentence⟩ := inhabited
  refine ⟨rfl, rfl, viable_of_append word (viable_of_mem sentence), stops, by simp, ?_⟩
  intro failure answer
  obtain rfl : error = failure := by simpa using answer
  exact ⟨location, refused⟩

section Sequence

variable {phrase : Phrase α} {phrase' : α → Phrase β} {language : Language Token.Kind}
  {near far : Follow} {input rest : Input} {used used' : List Token}

/-- A failure inside the first phrase is a failure of both: the rest of a sentence would have to
begin at a token that the first phrase is not given up in front of. -/
theorem run_bind_error {error : Error} (run : Run phrase near input used (.error error, rest))
    (uniform : ∀ tokens value, phrase tokens value → (phrase' value).sentences = language)
    (inhabited : ∃ word, word ∈ language) (apart : Apart phrase.sentences language)
    (leads : ∀ kind, Viable language [kind] → near (some kind))
    (through : [] ∈ language → ∀ ahead, far ahead → near ahead) :
    Run (phrase.bind phrase') far input used (.error error, rest) := by
  have product := Phrase.sentences_bind uniform
  obtain ⟨location, refused⟩ := run.rejected error rfl
  refine ⟨run.tokens, run.finish, ?_, ?_, by simp, ?_⟩
  · rw [product]
    exact viable_mul_left run.viable inhabited
  · intro kind ahead viable
    rw [product] at viable
    rcases viable_mul_cases viable with inside | ⟨front, back, same, sentence, viable'⟩
    · exact run.maximal kind ahead inside
    · have stops : ∀ symbol, [kind].head? = some symbol →
          ¬Viable phrase.sentences (kinds used ++ [symbol]) := by
        intro symbol head
        exact run.maximal symbol (ahead.trans head)
      obtain ⟨rfl, rfl⟩ := apart.split_unique same run.viable stops sentence viable'
      exact refused sentence (ahead ▸ leads kind viable')
  · intro failure same
    obtain rfl : error = failure := by simpa using same
    refine ⟨location, ?_⟩
    intro sentence follows
    rw [product] at sentence
    obtain ⟨front, member, back, member', split⟩ := Language.mem_mul.mp sentence
    have same : kinds used ++ [] = front ++ back := by simpa using split.symm
    obtain ⟨rfl, rfl⟩ :=
      apart.split_unique same run.viable (by simp) member (viable_of_mem member')
    exact refused member (through member' _ follows)

/-- The second phrase takes up the tokens behind the first, and its reply is that of both. -/
theorem run_bind_ok {value : α} {reply : Except Error β × Input}
    (run : Run phrase near input used (.ok value, rest))
    (run' : Run (phrase' value) far rest used' reply)
    (uniform : ∀ tokens value, phrase tokens value → (phrase' value).sentences = language)
    (apart : Apart phrase.sentences language) :
    Run (phrase.bind phrase') far input (used ++ used') reply := by
  have product := Phrase.sentences_bind uniform
  have accepted := run.accepted value rfl
  have derived : phrase used value := (accepted value).mpr rfl
  have sentence := Phrase.kinds_mem_sentences derived
  have same := uniform used value derived
  have stops : ∀ back symbol, (kinds used' ++ back).head? = some symbol →
      (used' = [] → ∀ kind, back.head? = some kind → reply.2.ahead = some kind) →
      ¬Viable phrase.sentences (kinds used ++ [symbol]) := by
    intro back symbol head stays
    apply run.maximal symbol
    cases used' with
    | nil => simpa [Input.ahead, run'.tokens] using stays rfl symbol (by simpa using head)
    | cons token used' => simpa [Input.ahead, run'.tokens] using head
  constructor
  · simp [run.tokens, run'.tokens]
  · exact run'.finish.trans run.finish
  · rw [product, kinds_append]
    exact viable_mul_right sentence (same ▸ run'.viable)
  · intro kind ahead viable
    rw [product, kinds_append, List.append_assoc] at viable
    have behind := apart.viable_behind sentence (by simp)
      (fun symbol head => stops [kind] symbol head fun _ _ heads => ahead.trans heads) viable
    exact run'.maximal kind ahead (same ▸ behind)
  · intro result answer other
    constructor
    · intro derivation
      obtain ⟨front, back, part, split, derived', derived''⟩ := derivation
      have same : kinds used ++ kinds used' = kinds front ++ kinds back := by
        rw [← kinds_append, split, kinds_append]
      have behind := uniform front part derived' ▸ Phrase.kinds_mem_sentences derived''
      have lengths := congrArg List.length (apart.split_unique same run.viable
        (fun symbol head => stops [] symbol (by simpa using head) (by simp))
        (Phrase.kinds_mem_sentences derived') (viable_of_mem behind)).1
      obtain ⟨rfl, rfl⟩ := List.append_inj split (by simpa using lengths.symm)
      obtain rfl := (accepted part).mp derived'
      exact (run'.accepted result answer other).mp derived''
    · intro equal
      exact ⟨used, used', value, rfl, derived, (run'.accepted result answer other).mpr equal⟩
  · intro failure answer
    obtain ⟨location, refused⟩ := run'.rejected failure answer
    refine ⟨location, ?_⟩
    intro member
    rw [product, kinds_append] at member
    obtain ⟨front, member, back, member', split⟩ := Language.mem_mul.mp member
    obtain ⟨rfl, rfl⟩ := apart.split_unique split.symm run.viable
      (fun symbol head => stops [] symbol (by simpa using head) (by simp)) member
      (viable_of_mem member')
    exact refused (same ▸ member')

theorem reads_at_bind {first : Parser Input α} {second : α → Parser Input β}
    (reads : first.ReadsAt phrase near input)
    (reads' : ∀ front value rest, input.tokens = front ++ rest.tokens → phrase front value →
      (second value).ReadsAt (phrase' value) far rest)
    (uniform : ∀ tokens value, phrase tokens value → (phrase' value).sentences = language)
    (inhabited : ∃ word, word ∈ language) (apart : Apart phrase.sentences language)
    (leads : ∀ kind, Viable language [kind] → near (some kind))
    (through : [] ∈ language → ∀ ahead, far ahead → near ahead) :
    (first >>= second).ReadsAt (phrase.bind phrase') far input := by
  obtain ⟨used, run⟩ := reads
  cases reply : first input with
  | mk answer rest =>
      rw [reply] at run
      cases answer with
      | error error =>
          refine ⟨used, ?_⟩
          rw [Parser.bind_of_error reply]
          exact run_bind_error run uniform inhabited apart leads through
      | ok value =>
          have derived : phrase used value := (run.accepted value rfl value).mpr rfl
          obtain ⟨used', run'⟩ := reads' used value rest run.tokens derived
          refine ⟨used ++ used', ?_⟩
          rw [Parser.bind_of_ok reply]
          exact run_bind_ok run run' uniform apart

end Sequence

theorem reads_at_map {parser : Parser Input α} {phrase : Phrase α} {follow : Follow} {input : Input}
    (f : α → β) (reads : parser.ReadsAt phrase follow input) :
    (f <$> parser).ReadsAt (f <$> phrase) follow input := by
  obtain ⟨used, run⟩ := reads
  refine ⟨used, ?_⟩
  cases reply : parser input with
  | mk answer rest =>
      rw [reply] at run
      cases answer with
      | error error =>
          have mapped : (f <$> parser) input = (.error error, rest) := Parser.bind_of_error reply
          rw [mapped]
          refine ⟨run.tokens, run.finish, ?_, ?_, by simp, ?_⟩
          · exact Phrase.sentences_map f phrase ▸ run.viable
          · exact Phrase.sentences_map f phrase ▸ run.maximal
          · intro failure same
            obtain rfl : error = failure := by simpa using same
            exact Phrase.sentences_map f phrase ▸ run.rejected error rfl
      | ok value =>
          have mapped : (f <$> parser) input = (.ok (f value), rest) := Parser.bind_of_ok reply
          rw [mapped]
          refine ⟨run.tokens, run.finish, ?_, ?_, ?_, by simp⟩
          · exact Phrase.sentences_map f phrase ▸ run.viable
          · exact Phrase.sentences_map f phrase ▸ run.maximal
          · intro result same other
            obtain rfl : f value = result := by simpa using same
            simp [run.accepted value rfl]

theorem reads_at_congr {parser other : Parser Input α} {phrase : Phrase α} {follow : Follow}
    {input : Input} (same : parser input = other input)
    (reads : other.ReadsAt phrase follow input) :
    parser.ReadsAt phrase follow input := by
  obtain ⟨used, run⟩ := reads
  exact ⟨used, same ▸ run⟩

theorem reads_at_shorter {parser : Parser Input α} {phrase : Phrase α} {follow : Follow}
    {input rest : Input} {value : α} (reads : parser.ReadsAt phrase follow input)
    (solid : [] ∉ phrase.sentences) (reply : parser input = (.ok value, rest)) :
    rest.tokens.length < input.tokens.length := by
  obtain ⟨used, run⟩ := reads
  rw [reply] at run
  have derived : phrase used value := (run.accepted value rfl value).mpr rfl
  cases used with
  | nil => exact absurd (Phrase.kinds_mem_sentences derived) solid
  | cons token used =>
      have tokens : input.tokens = token :: used ++ rest.tokens := run.tokens
      simp only [tokens, List.cons_append, List.length_cons, List.length_append]
      omega

/-- A parser that reads one phrase reads any other that differs from it only in runs that cannot
begin here. -/
theorem reads_at_widen {parser : Parser Input α} {narrow wide : Phrase α} {near far : Follow}
    {input : Input} (reads : parser.ReadsAt narrow near input)
    (narrower : ∀ tokens value, narrow tokens value → wide tokens value)
    (agree : ∀ token rest value, input.ahead = some token.kind →
      wide (token :: rest) value → narrow (token :: rest) value)
    (solid : [] ∉ narrow.sentences)
    (begins : [] ∈ wide.sentences → far input.ahead →
      ∃ kind, input.ahead = some kind ∧ Viable narrow.sentences [kind])
    (follows : ∀ ahead, far ahead → near ahead) : parser.ReadsAt wide far input := by
  obtain ⟨used, run⟩ := reads
  refine ⟨used, ?_⟩
  have begun : used = [] → (parser input).2.ahead = input.ahead := by
    intro none
    simp [Input.ahead, run.tokens, none]
  have back : ∀ kind word, input.ahead = some kind → Viable wide.sentences (kind :: word) →
      Viable narrow.sentences (kind :: word) := by
    intro kind word ahead viable
    obtain ⟨rest, tokens, value, derived, same⟩ := viable
    cases tokens with
    | nil => simp at same
    | cons token tokens =>
        simp only [kinds_cons, List.cons_append, List.cons.injEq] at same
        obtain ⟨rfl, same⟩ := same
        exact ⟨rest, token :: tokens, value, agree token tokens value ahead derived, by simp [same]⟩
  constructor
  · exact run.tokens
  · exact run.finish
  · obtain ⟨rest, tokens, value, derived, same⟩ := run.viable
    exact ⟨rest, tokens, value, narrower tokens value derived, same⟩
  · intro kind ahead viable
    cases used with
    | nil => exact run.maximal kind ahead (back kind [] (begun rfl ▸ ahead) viable)
    | cons token used =>
        exact run.maximal kind ahead (back token.kind _ (head_ahead run.tokens) viable)
  · intro value answer other
    have accepted := run.accepted value answer
    cases used with
    | nil => exact absurd (Phrase.kinds_mem_sentences ((accepted value).mpr rfl)) solid
    | cons token used =>
        rw [← accepted other]
        exact ⟨agree token used other (head_ahead run.tokens), narrower _ other⟩
  · intro error answer
    obtain ⟨location, refused⟩ := run.rejected error answer
    refine ⟨location, ?_⟩
    intro sentence follow
    cases used with
    | nil =>
        rw [begun rfl] at follow
        obtain ⟨kind, ahead, viable⟩ := begins sentence follow
        exact run.maximal kind ((begun rfl).trans ahead) viable
    | cons token used =>
        obtain ⟨tokens, value, derived, same⟩ := sentence
        cases tokens with
        | nil => simp at same
        | cons other tokens =>
            have heads : other.kind = token.kind := (List.cons.inj same).1
            have narrowed := agree other tokens value (heads ▸ head_ahead run.tokens) derived
            exact refused ⟨_, value, narrowed, same⟩ (follows _ follow)

section Choice

variable {parser : Parser Input α} {first second : Phrase α} {near far : Follow} {input : Input}
  {value : α}

/-- A parser that reads one of two phrases reads their choice where the other cannot begin. -/
theorem reads_at_either_left (reads : parser.ReadsAt first near input)
    (solid : [] ∉ first.sentences) (solid' : [] ∉ second.sentences)
    (away : ∀ kind, input.ahead = some kind → ¬Viable second.sentences [kind]) :
    parser.ReadsAt (first <|> second) near input := by
  apply reads_at_widen reads
  · exact fun _ _ => .inl
  · intro token rest value ahead derived
    rcases derived with derived | derived
    · exact derived
    · exact absurd (viable_head (viable_of_mem (Phrase.kinds_mem_sentences derived)))
        (away token.kind ahead)
  · exact solid
  · intro sentence _
    rw [Phrase.sentences_either] at sentence
    rcases sentence with member | member
    · exact absurd member solid
    · exact absurd member solid'
  · exact fun _ follows => follows

theorem reads_at_either_right (reads : parser.ReadsAt second near input)
    (solid : [] ∉ first.sentences) (solid' : [] ∉ second.sentences)
    (away : ∀ kind, input.ahead = some kind → ¬Viable first.sentences [kind]) :
    parser.ReadsAt (first <|> second) near input :=
  Phrase.either_comm second first ▸ reads_at_either_left reads solid' solid away

/-- Where a phrase may also be absent, reading it is right in front of a token that begins it, and
in front of any other that cannot follow. -/
theorem reads_at_present (reads : parser.ReadsAt first near input) (solid : [] ∉ first.sentences)
    (begins : far input.ahead → ∃ kind, input.ahead = some kind ∧ Viable first.sentences [kind])
    (follows : ∀ ahead, far ahead → near ahead) :
    parser.ReadsAt (pure value <|> first) far input := by
  apply reads_at_widen reads
  · exact fun _ _ => .inr
  · intro token rest value _ derived
    rcases derived with ⟨absurdity, -⟩ | derived
    · simp at absurdity
    · exact derived
  · exact solid
  · exact fun _ => begins
  · exact follows

theorem run_absent (solid : [] ∉ first.sentences)
    (stops : ∀ kind, input.ahead = some kind → ¬Viable first.sentences [kind]) :
    Run (pure value <|> first) far input [] (.ok value, input) := by
  apply run_stay (Phrase.nothing_or_nil solid)
  intro kind ahead viable
  rw [Phrase.sentences_either, Phrase.sentences_pure] at viable
  exact stops kind ahead (viable_of_one_add viable)

end Choice

end Sierra
