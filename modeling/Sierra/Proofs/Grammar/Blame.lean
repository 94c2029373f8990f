import Sierra.Proofs.Grammar.Combinators
import Sierra.Proofs.Grammar.Faults

/-!
# Parsers that blame rightly

A reading is fair when the fault of each of its errors fits behind the tokens taken, whatever the
surroundings of the part add. Fair readings are put together as readings are, under one more
condition at each seam: what may go on behind the left part tells nothing new where the right part
begins. Like being apart, this is a comparison of two lists.
-/

namespace Sierra

set_option autoImplicit false

open scoped Computability

variable {α β : Type} {left right : Outline Token.Kind} {language : Language Token.Kind}

theorem settled_one_of {allowed : List Token.Kind} (closed : .punctuation .leftParen ∉ allowed) :
    Settled (Phrase.oneOf allowed).sentences := by
  intro word sentence last
  obtain ⟨kind, member, rfl⟩ := Phrase.mem_sentences_one_of.mp sentence
  obtain rfl : kind = .punctuation .leftParen := by simpa using last
  exact closed member

namespace Expectation

/-- The tokens wanted tell what the lack of them is: either nothing could close and no parameter
could begin, or one of them closes something and none is a name. -/
def Plain (wanted : Expectation) : Prop :=
  (wanted.closes = false ∧ Quiet wanted.kinds) ∨
  (wanted.closes = true ∧ .identifier ∉ wanted.kinds ∧
    ∃ kind ∈ wanted.kinds, kind ∈ Token.Kind.closers ∧ kind ≠ .keyword .self)

instance (wanted : Expectation) : Decidable wanted.Plain :=
  inferInstanceAs (Decidable (_ ∨ _))

variable {wanted : Expectation}

/-- At the end of the input every place misses something. -/
theorem blamed_at_end {used : List Token.Kind} {found : Token} (ended : found.kind = .endOfInput) :
    Blamed language used found.kind (wanted.error found).fault := by
  intro could before _ _
  rw [error, if_pos (.inl ended), ended]
  exact fits_at_end _ _ could _

theorem blamed_of_quiet (outlined : Outlines language left) (opens : wanted.closes = false)
    (quiet : Quiet left.first) (found : Token) :
    Blamed language [] found.kind (wanted.error found).fault := by
  by_cases ended : found.kind = .endOfInput
  · exact blamed_at_end ended
  · intro could before widens behind
    rw [error, if_neg (by simp [ended, opens])]
    exact misplaced_fits quiet.1 (fun _ => quiet.2) outlined.first (widens ended) ended
      (behind rfl)

theorem blamed_of_plain (plain : wanted.Plain) (found : Token) :
    Blamed (Phrase.oneOf wanted.kinds).sentences [] found.kind (wanted.error found).fault := by
  have outlined := Phrase.outlines_one_of wanted.kinds_ne_nil
  rcases plain with ⟨opens, quiet⟩ | ⟨closes, unnamed, kind, member, closer, other⟩
  · exact blamed_of_quiet outlined opens quiet found
  · by_cases ended : found.kind = .endOfInput
    · exact blamed_at_end ended
    · have possible : kind ∈ nexts (Phrase.oneOf wanted.kinds).sentences [] :=
        viable_of_mem (Phrase.mem_sentences_one_of.mpr ⟨kind, member, rfl⟩)
      intro could before widens _
      rw [error, if_pos (.inr closes)]
      apply incomplete_fits closer other possible _ (widens ended)
      exact fun named => unnamed (outlined.first _ named)

end Expectation

namespace Parser

/-- The fault of every error fits behind the tokens taken. -/
def BlamesAt (parser : Parser Input α) (language : Language Token.Kind) (input : Input) : Prop :=
  ∀ error rest, parser input = (.error error, rest) →
    ∃ used, input.tokens = used ++ rest.tokens ∧
      Blamed language (kinds used) rest.next.kind error.fault

variable {parser other : Parser Input α} {input rest : Input} {kind : Token.Kind}

theorem blames_at_ok {value : α} (reply : parser input = (.ok value, rest)) :
    parser.BlamesAt language input := by
  intro error rest failed
  simp [reply] at failed

theorem blames_at_congr (same : parser input = other input)
    (blames : other.BlamesAt language input) : parser.BlamesAt language input := by
  intro error rest failed
  exact blames error rest (same ▸ failed)

theorem blames_at_map (f : α → β) (blames : parser.BlamesAt language input) :
    (f <$> parser).BlamesAt language input := by
  intro error rest failed
  exact blames error rest (of_map_error failed)

theorem blames_at_nexts {wider : Language Token.Kind}
    (same : ∀ word, nexts wider word = nexts language word)
    (blames : parser.BlamesAt language input) : parser.BlamesAt wider input := by
  intro error rest failed
  obtain ⟨used, tokens, blamed⟩ := blames error rest failed
  refine ⟨used, tokens, blamed.widen fun _ => ?_⟩
  rw [same]
  exact Widens.refl _

theorem blames_at_expect {wanted : Expectation}
    (blamed : Blamed language [] input.next.kind (wanted.error input.next).fault) :
    (expect wanted).BlamesAt language input := by
  intro error rest failed
  obtain ⟨-, rfl, rfl⟩ := expect_error failed
  exact ⟨[], rfl, blamed⟩

end Parser

section Sequence

variable {phrase : Phrase α} {near : Follow} {input rest rest' : Input} {used used' : List Token}
  {value : α}

/-- A fault behind the first of two parts fits in both, as long as what may go on behind the first
tells nothing new where the second begins. -/
theorem Run.blamed_behind {fault : Fault} (run : Run phrase near input used (.ok value, rest))
    (tokens : rest.tokens = used' ++ rest'.tokens)
    (blamed : Blamed language (kinds used') rest'.next.kind fault)
    (outlined : Outlines phrase.sentences left) (outlined' : Outlines language right)
    (apart : left.Apart right)
    (harmless : rest'.next.kind ≠ .endOfInput → Harmless left.next right.first)
    (opened : used' = [] → (kinds used).getLast? = some (.punctuation .leftParen) →
      rest'.next.kind ≠ .punctuation .rightParen) :
    Blamed (phrase.sentences * language) (kinds (used ++ used')) rest'.next.kind fault := by
  have sentence : kinds used ∈ phrase.sentences :=
    Phrase.kinds_mem_sentences ((run.accepted value rfl value).mpr rfl)
  have stops : ∀ head, (kinds used').head? = some head →
      ¬Viable phrase.sentences (kinds used ++ [head]) := by
    intro head heads
    apply run.maximal head
    cases used' with
    | nil => simp at heads
    | cons token used' => simpa [Input.ahead, tokens] using heads
  rw [kinds_append]
  apply blamed.prepend
  · exact fun inside => widens_behind outlined outlined' apart sentence stops (harmless inside)
  · exact fun none => opened (List.map_eq_nil_iff.mp none)

theorem blames_at_bind {first : Parser Input α} {second : α → Parser Input β}
    (reads : first.ReadsAt phrase near input) (blames : first.BlamesAt phrase.sentences input)
    (blames' : ∀ value rest, first input = (.ok value, rest) →
      (second value).BlamesAt language rest)
    (outlined : Outlines phrase.sentences left) (outlined' : Outlines language right)
    (settled : Settled phrase.sentences) (apart : left.Apart right)
    (inside : (∀ ahead, near ahead) ∨ Harmless right.first left.next)
    (behind : ∀ value rest error rest', first input = (.ok value, rest) →
      second value rest = (.error error, rest') → rest'.next.kind ≠ .endOfInput →
        Harmless left.next right.first) :
    (first >>= second).BlamesAt (phrase.sentences * language) input := by
  intro error rest failed
  obtain ⟨used, run⟩ := reads
  cases reply : first input with
  | mk answer middle =>
      rw [reply] at run
      cases answer with
      | error error' =>
          rw [Parser.bind_of_error reply] at failed
          obtain ⟨rfl, rfl⟩ := Parser.error_inj failed
          obtain ⟨used', tokens, blamed⟩ := blames _ _ reply
          obtain rfl : used = used' := List.append_cancel_right (run.tokens.symm.trans tokens)
          refine ⟨used, tokens, blamed.widen fun _ => ?_⟩
          apply widens_inside outlined outlined' apart run.viable
          intro sentence
          have refused := (run.rejected _ rfl).2 sentence
          exact inside.resolve_left fun follows => refused (follows _)
      | ok value =>
          rw [Parser.bind_of_ok reply] at failed
          obtain ⟨used', tokens, blamed⟩ := blames' value middle reply error rest failed
          refine ⟨used ++ used', by simp [run.tokens, tokens], ?_⟩
          have sentence : kinds used ∈ phrase.sentences :=
            Phrase.kinds_mem_sentences ((run.accepted value rfl value).mpr rfl)
          apply run.blamed_behind tokens blamed outlined outlined' apart
          · exact behind value middle error rest reply failed
          · exact fun _ last => absurd last (settled _ sentence)

end Sequence

section Choice

variable {parser : Parser Input α} {first second : Language Token.Kind} {input : Input}

/-- Where the token at hand begins only one of two parts, the other tells something only as long as
nothing has been read. -/
theorem blames_at_either_left (blames : parser.BlamesAt first input)
    (outlined : Outlines first left) (outlined' : Outlines second right)
    (away : ∀ kind, input.ahead = some kind → kind ∉ right.first)
    (harmless : Harmless right.first left.first) : parser.BlamesAt (first + second) input := by
  intro error rest failed
  obtain ⟨used, tokens, blamed⟩ := blames error rest failed
  refine ⟨used, tokens, blamed.widen fun _ => ?_⟩
  cases used with
  | nil =>
      apply widens_of_harmless harmless outlined.first
      · intro kind begins
        obtain ⟨after, sentence⟩ := begins
        exact ⟨after, .inl sentence⟩
      · intro kind begins
        obtain ⟨after, sentence | sentence⟩ := begins
        · exact .inl ⟨after, sentence⟩
        · exact .inr (outlined'.first kind ⟨after, sentence⟩)
  | cons token used =>
      have other : ¬Viable second [token.kind] :=
        fun begins => away _ (head_ahead tokens) (outlined'.first _ begins)
      rw [kinds_cons, nexts_add_left other]
      exact Widens.refl _

theorem blames_at_either_right (blames : parser.BlamesAt second input)
    (outlined : Outlines first left) (outlined' : Outlines second right)
    (away : ∀ kind, input.ahead = some kind → kind ∉ left.first)
    (harmless : Harmless left.first right.first) : parser.BlamesAt (first + second) input := by
  rw [add_comm]
  exact blames_at_either_left blames outlined' outlined away harmless

theorem blames_at_either {kind : Token.Kind} (outlined : Outlines first left)
    (outlined' : Outlines second right) (opening : left.first = [kind])
    (other : kind ∉ right.first) (harmless : Harmless right.first left.first)
    (harmless' : Harmless left.first right.first)
    (blames : input.ahead = some kind → parser.BlamesAt first input)
    (blames' : input.ahead ≠ some kind → parser.BlamesAt second input) :
    parser.BlamesAt (first + second) input := by
  by_cases ahead : input.ahead = some kind
  · apply blames_at_either_left (blames ahead) outlined outlined' _ harmless
    intro present now
    obtain rfl : kind = present := by simpa [ahead] using now
    exact other
  · apply blames_at_either_right (blames' ahead) outlined outlined' _ harmless'
    intro present now begins
    obtain rfl : present = kind := by simpa [opening] using begins
    exact ahead now

end Choice

section Repetition

variable {more : Token.Kind → Bool} {item : Parser Input α} {phrase : Phrase α}

theorem blames_at_many (outlined : Outlines phrase.sentences left) (solid : left.empty = false)
    (apart : left.Apart left) (harmless : Harmless left.next left.first)
    (settled : Settled phrase.sentences)
    (reads : ∀ input kind, input.ahead = some kind → more kind = true →
      item.ReadsAt phrase anything input)
    (blames : ∀ input kind, input.ahead = some kind → more kind = true →
      item.BlamesAt phrase.sentences input) (input : Input) :
    (Parser.manyWhile more item).BlamesAt phrase.sentences∗ input := by
  have mapped := Phrase.sentences_map List.cons phrase
  have consumes := Reading.consumes_of_reads reads (outlined.not_nil solid)
  -- On the tokens left, of which every round takes one.
  induction length : input.tokens.length using Nat.strong_induction_on generalizing input with
  | _ size induction =>
  by_cases go : input.ahead.any more = true
  · obtain ⟨kind, ahead, goes⟩ := (Option.any_eq_true _ _).mp go
    have round : (List.cons <$> item <*> Parser.manyWhile more item).BlamesAt
        (phrase.sentences * phrase.sentences∗) input := by
      rw [← mapped, seq_eq_bind_map]
      apply blames_at_bind (reads_at_map List.cons (reads input kind ahead goes))
      · rw [mapped]
        exact Parser.blames_at_map _ (blames input kind ahead goes)
      · intro f rest reply
        rw [mapped]
        have shorter := reads_at_shorter (reads_at_map List.cons (reads input kind ahead goes))
          (mapped ▸ outlined.not_nil solid) reply
        exact Parser.blames_at_map f (induction _ (length ▸ shorter) rest rfl)
      · exact mapped ▸ outlined
      · exact mapped ▸ outlines_many outlined apart
      · exact mapped ▸ settled
      · exact apart
      · exact .inl fun _ => trivial
      · exact fun _ _ _ _ _ _ _ => harmless
    apply Parser.blames_at_congr (Parser.many_while_go consumes go)
    exact Parser.blames_at_nexts (nexts_kstar _) round
  · exact Parser.blames_at_ok (Parser.many_while_stop item (by simpa using go))

end Repetition

structure FairReading (parser : Parser Input α) (phrase : Phrase α) (follow : Follow)
    (outline : Outline Token.Kind) : Prop extends Reading parser phrase follow outline where
  settled : Settled phrase.sentences
  blames : ∀ input, parser.BlamesAt phrase.sentences input

/-- Two parts of which the first neither runs into the second nor tells anything where it begins. -/
def Outline.Clear (left right : Outline Token.Kind) : Prop :=
  left.Apart right ∧ Harmless left.next right.first

instance (left right : Outline Token.Kind) : Decidable (left.Clear right) :=
  inferInstanceAs (Decidable (_ ∧ _))

namespace FairReading

theorem map {parser : Parser Input α} {phrase : Phrase α} {follow : Follow} (f : α → β)
    (fair : FairReading parser phrase follow left) :
    FairReading (f <$> parser) (f <$> phrase) follow left := by
  have same := Phrase.sentences_map f phrase
  refine ⟨fair.toReading.map f, same ▸ fair.settled, ?_⟩
  intro input
  rw [same]
  exact Parser.blames_at_map f (fair.blames input)

theorem mono {parser : Parser Input α} {phrase : Phrase α} {near far : Follow}
    (fair : FairReading parser phrase near left) (follows : ∀ ahead, far ahead → near ahead) :
    FairReading parser phrase far left :=
  ⟨fair.toReading.mono follows, fair.settled, fair.blames⟩

theorem bind_blames_at {first : Parser Input α} {second : α → Parser Input β} {phrase : Phrase α}
    {input : Input} (fair : FairReading first phrase anything left)
    (blames : ∀ value rest, first input = (.ok value, rest) →
      (second value).BlamesAt language rest)
    (outlined : Outlines language right) (clear : left.Clear right) :
    (first >>= second).BlamesAt (phrase.sentences * language) input := by
  apply blames_at_bind (fair.reads input) (fair.blames input) blames fair.outlined outlined
    fair.settled clear.1
  · exact .inl fun _ => trivial
  · exact fun _ _ _ _ _ _ _ => clear.2

/-- A value is at hand to take the second part from, since the first phrase derives something. -/
theorem bind {first : Parser Input α} {second : α → Parser Input β} {phrase : Phrase α}
    {phrase' : α → Phrase β} {far : Follow} (fair : FairReading first phrase anything left)
    (fair' : ∀ value, FairReading (second value) (phrase' value) far right)
    (uniform : ∀ value, (phrase' value).sentences = language) (clear : left.Clear right) :
    FairReading (first >>= second) (phrase.bind phrase') far (left.seq right) := by
  obtain ⟨_, tokens, value, derived, rfl⟩ := fair.outlined.inhabited
  have outlined' : Outlines language right := uniform value ▸ (fair' value).outlined
  have settled' : Settled language := uniform value ▸ (fair' value).settled
  have product : (phrase.bind phrase').sentences = phrase.sentences * language :=
    Phrase.sentences_bind fun _ value _ => uniform value
  constructor
  · apply fair.toReading.bind outlined' uniform
    · exact fun value => (fair' value).reads
    · exact clear.1
    · exact fun _ _ => trivial
    · exact fun _ _ _ => trivial
  · rw [product]
    exact settled_mul fair.settled settled'
  · intro input
    rw [product]
    apply fair.bind_blames_at _ outlined' clear
    exact fun value rest _ => uniform value ▸ (fair' value).blames rest

theorem seq {first : Parser Input (α → β)} {second : Parser Input α} {phrase : Phrase (α → β)}
    {phrase' : Phrase α} {far : Follow} (fair : FairReading first phrase anything left)
    (fair' : FairReading second phrase' far right) (clear : left.Clear right) :
    FairReading (first <*> second) (phrase <*> phrase') far (left.seq right) := by
  rw [Phrase.seq_eq_bind, seq_eq_bind_map]
  exact fair.bind (fun f => fair'.map f) (fun f => Phrase.sentences_map f phrase') clear

theorem expect (wanted : Expectation) (plain : wanted.Plain)
    (closed : .punctuation .leftParen ∉ wanted.kinds) :
    FairReading (Parser.expect wanted) (.oneOf wanted.kinds) anything (.oneOf wanted.kinds) := by
  refine ⟨.expect wanted, settled_one_of closed, ?_⟩
  exact fun input => Parser.blames_at_expect (wanted.blamed_of_plain plain input.next)

section Optional

variable {kind : Token.Kind} {part : Parser Input α} {phrase : Phrase α} {follow : Follow}

theorem read_if (kind : Token.Kind) (outlined : Outlines phrase.sentences left)
    (solid : left.empty = false) (opening : left.first = [kind]) (inside : kind ≠ .endOfInput)
    (settled : Settled phrase.sentences)
    (reads : ∀ input, input.ahead = some kind → part.ReadsAt phrase follow input)
    (blames : ∀ input, input.ahead = some kind → part.BlamesAt phrase.sentences input) :
    FairReading (Parser.readIf kind part) phrase.optional follow left.optional := by
  have same := Phrase.sentences_optional phrase
  refine ⟨.read_if kind outlined solid opening inside reads, ?_, ?_⟩
  · exact same ▸ settled_add settled_one settled
  · intro input
    rw [same]
    by_cases here : input.next.kind = kind
    · have present : Parser.readIf kind part input = (some <$> part) input := by
        rw [Parser.readIf, Parser.next_bind, if_pos here]
      apply Parser.blames_at_congr present
      apply Parser.blames_at_nexts (nexts_one_add _)
      exact Parser.blames_at_map some (blames input ((next_kind_iff inside).mp here))
    · have absent : Parser.readIf kind part input = (.ok none, input) := by
        rw [Parser.readIf, Parser.next_bind, if_neg here]
        rfl
      exact Parser.blames_at_ok absent

theorem blames_behind (fair : FairReading part phrase follow left) {input : Input}
    (ahead : input.ahead = some kind) (closed : kind ≠ .punctuation .leftParen) :
    (do Parser.advance; part).BlamesAt (phrase.behind kind).sentences input := by
  obtain ⟨token, rest, tokens, -⟩ := ahead_eq_some ahead
  have same : (do Parser.advance; part) input = (Parser.take >>= fun _ => part) input := rfl
  apply Parser.blames_at_congr same
  rw [Phrase.sentences_behind]
  apply blames_at_bind (Parser.take_reads_at ahead (List.mem_singleton_self kind))
  · exact Parser.blames_at_ok (Parser.take_of_tokens tokens)
  · exact fun _ rest _ => fair.blames rest
  · exact Phrase.outlines_one_of (List.cons_ne_nil kind [])
  · exact fair.outlined
  · exact settled_one_of (by simpa using closed.symm)
  · simp [Outline.Apart, Outline.oneOf]
  · exact .inl fun _ => trivial
  · simp [Harmless, Outline.oneOf]

theorem settled_behind (fair : FairReading part phrase follow left)
    (closed : kind ≠ .punctuation .leftParen) : Settled (phrase.behind kind).sentences := by
  rw [Phrase.sentences_behind]
  exact settled_mul (settled_one_of (by simpa using closed.symm)) fair.settled

theorem read_if_behind (kind : Token.Kind) (fair : FairReading part phrase follow left)
    (inside : kind ≠ .endOfInput) (closed : kind ≠ .punctuation .leftParen) :
    FairReading (Parser.readIf kind do Parser.advance; part) (phrase.behind kind).optional follow
      ((Outline.oneOf [kind]).seq left).optional :=
  read_if kind (Phrase.outlines_behind kind fair.outlined) rfl rfl inside
    (fair.settled_behind closed) (fun _ ahead => Reading.behind_reads_at fair.toReading ahead)
    fun _ ahead => fair.blames_behind ahead closed

end Optional

theorem many {more : Token.Kind → Bool} {item : Parser Input α} {phrase : Phrase α} {far : Follow}
    (outlined : Outlines phrase.sentences left) (solid : left.empty = false)
    (clear : left.Clear left) (settled : Settled phrase.sentences)
    (reads : ∀ input kind, input.ahead = some kind → more kind = true →
      item.ReadsAt phrase anything input)
    (blames : ∀ input kind, input.ahead = some kind → more kind = true →
      item.BlamesAt phrase.sentences input)
    (heads : ∀ kind ∈ left.first, more kind = true)
    (begins : ∀ kind, more kind = true → far (some kind) → Viable phrase.sentences [kind]) :
    FairReading (Parser.manyWhile more item) phrase.many far left.many := by
  have same := Phrase.sentences_many phrase
  constructor
  · exact .many outlined solid clear.1 reads heads begins
  · exact same ▸ settled_kstar settled
  · exact fun input =>
      same ▸ blames_at_many outlined solid clear.1 clear.2 settled reads blames input

theorem many_behind (kind : Token.Kind) {item : Parser Input α} {phrase : Phrase α}
    (fair : FairReading item phrase anything left) (solid : left.empty = false)
    (clear : left.Clear (.oneOf [kind])) (closed : kind ≠ .punctuation .leftParen) :
    FairReading (Parser.manyWhile (· = kind) do Parser.advance; item) (phrase.behind kind).many
      anything ((Outline.oneOf [kind]).seq left).many := by
  have outlined := Phrase.outlines_behind kind fair.outlined
  have same : Outline.Clear ((Outline.oneOf [kind]).seq left) ((Outline.oneOf [kind]).seq left) ↔
      left.Clear (.oneOf [kind]) := by
    simp [Outline.Clear, Outline.Apart, Outline.seq, Outline.oneOf, solid]
  apply many outlined rfl (same.mpr clear) (fair.settled_behind closed)
  · intro input other ahead same
    obtain rfl : other = kind := by simpa using same
    exact Reading.behind_reads_at fair.toReading ahead
  · intro input other ahead same
    obtain rfl : other = kind := by simpa using same
    exact fair.blames_behind ahead closed
  · simp [Outline.seq, Outline.oneOf]
  · intro other same _
    obtain rfl : other = kind := by simpa using same
    exact outlined.viable_of_first rfl rfl

theorem located {parser : Parser Input (Location → α)} {phrase : Phrase (Location → α)}
    {follow : Follow} (fair : FairReading parser phrase follow left) (solid : left.empty = false) :
    FairReading (Parser.located parser) phrase.located follow left := by
  have same : phrase.located.sentences = phrase.sentences :=
    Phrase.sentences_located (fair.outlined.not_nil solid)
  refine ⟨fair.toReading.located solid, same ▸ fair.settled, ?_⟩
  intro input
  rw [same]
  exact Parser.blames_at_map (fun f => f input.next.location) (fair.blames input)

/-- A closing token behind a loop is only missing at the end of the input, since the loop goes on in
front of anything else. -/
theorem seq_closing {first : Parser Input (Token → α)} {phrase : Phrase (Token → α)}
    {wanted : Expectation} {kind : Token.Kind}
    (fair : FairReading first phrase (· = some kind) left) (single : wanted.kinds = [kind])
    (closed : kind ≠ .punctuation .leftParen) (apart : left.Apart (.oneOf [kind]))
    (harmless : Harmless [kind] left.next)
    (ends : ∀ input value rest, first input = (.ok value, rest) →
      rest.ahead.any (· ≠ kind) = false) :
    FairReading (first <*> Parser.expect wanted) (phrase <*> .oneOf [kind]) anything
      (left.seq (.oneOf [kind])) := by
  have outlined := Phrase.outlines_one_of (List.cons_ne_nil kind [])
  have closing : Reading (Parser.expect wanted) (.oneOf [kind]) anything (.oneOf [kind]) :=
    single ▸ .expect wanted
  have settled : Settled (Phrase.oneOf [kind]).sentences :=
    settled_one_of (by simpa using closed.symm)
  have decided : ∀ rest : Input, rest.ahead.any (· ≠ kind) = false →
      (∃ token left, Parser.expect wanted rest = (.ok token, left)) ∨
      (rest.next.kind = .endOfInput ∧
        Parser.expect wanted rest = (.error (wanted.error rest.next), rest)) := by
    intro rest ends
    cases ahead : rest.ahead with
    | none =>
        have ended := next_ended ahead
        exact .inr ⟨ended, Parser.expect_of_not_mem (ended ▸ wanted.end_not_wanted)⟩
    | some other =>
        obtain ⟨token, after, tokens, rfl⟩ := ahead_eq_some ahead
        have same : token.kind = kind := by simpa [ahead] using ends
        exact .inl ⟨token, _, Parser.expect_of_mem tokens (by simp [single, same])⟩
  constructor
  · apply fair.toReading.seq_before closing apart
    · simp [Outline.oneOf]
    · exact fun empty => absurd empty (by simp [Outline.oneOf])
  · rw [Phrase.sentences_seq]
    exact settled_mul fair.settled settled
  · intro input
    rw [Phrase.sentences_seq, seq_eq_bind_map]
    apply blames_at_bind (fair.reads input) (fair.blames input)
    · intro f rest reply
      apply Parser.blames_at_map f
      rcases decided rest (ends input f rest reply) with ⟨token, left, taken⟩ | ⟨ended, -⟩
      · exact Parser.blames_at_ok taken
      · exact Parser.blames_at_expect (Expectation.blamed_at_end ended)
    · exact fair.outlined
    · exact outlined
    · exact fair.settled
    · exact apart
    · exact .inr harmless
    · intro f rest error rest' reply failed inside
      rcases decided rest (ends input f rest reply) with ⟨token, left, taken⟩ | ⟨ended, missing⟩
      · have mapped : (f <$> Parser.expect wanted) rest = (.ok (f token), left) :=
          Parser.bind_of_ok taken
        simp [mapped] at failed
      · have mapped : (f <$> Parser.expect wanted) rest =
            (.error (wanted.error rest.next), rest) := Parser.bind_of_error missing
        obtain ⟨-, rfl⟩ := Prod.mk.inj (mapped.symm.trans failed)
        exact absurd ended inside

end FairReading

end Sierra
