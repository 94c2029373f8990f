import Sierra.Proofs.Grammar.Echoes
import Sierra.Proofs.Grammar.Exactness

/-!
# Cursors and what they have left to read

A cursor has the tokens behind it and in front of it, while an input is only what is left to read.
Parsers ask for no more than that. On a cursor they answer what they answer on the input that the
cursor stands in front of, and leave the cursor in front of the input that they leave. This is kept
by every way to put parsers together, so that what is proved of inputs holds of cursors.
-/

namespace Sierra

set_option autoImplicit false

open Sierra.Parser

variable {α β : Type}

namespace Token

/-- An end of input is told from others by its location only. -/
def bare (token : Token) : Token :=
  if token.kind = .endOfInput then .endOfInput token.location else token

theorem bare_of_inside {token : Token} (inside : token.kind ≠ .endOfInput) : token.bare = token :=
  if_neg inside

theorem bare_of_end {token : Token} (ended : token.kind = .endOfInput) :
    token.bare = .endOfInput token.location :=
  if_pos ended

@[simp] theorem bare_kind (token : Token) : token.bare.kind = token.kind := by
  unfold bare
  split
  case isTrue ended => exact ended.symm
  case isFalse => rfl

@[simp] theorem bare_location (token : Token) : token.bare.location = token.location := by
  unfold bare
  split <;> rfl

end Token

theorem Expectation.error_bare (wanted : Expectation) (found : Token) :
    wanted.error found.bare = wanted.error found := by
  by_cases ended : found.kind = .endOfInput
  · have described : found.bare.describe = found.describe := by
      rw [Token.bare_of_end ended, Token.describe, Token.describe, ended]
      rfl
    rw [error, error, described, Token.bare_kind, Token.bare_location]
  · rw [Token.bare_of_inside ended]

theorem first_end_of_mem {tokens : List Token} {token : Token} (member : token ∈ tokens)
    (ended : token.kind = .endOfInput) : ∃ front ending behind, tokens = front ++ ending :: behind ∧
      (∀ token ∈ front, token.kind ≠ .endOfInput) ∧ ending.kind = .endOfInput := by
  have found : (tokens.find? (·.kind = .endOfInput)).isSome := by
    simpa using ⟨token, member, ended⟩
  obtain ⟨ending, found⟩ := Option.isSome_iff_exists.mp found
  obtain ⟨first, front, behind, same, inside⟩ := List.find?_eq_some_iff_append.mp found
  exact ⟨front, ending, behind, same, by simpa using inside, by simpa using first⟩

/-- An end of input is taken to stand where one would be put. -/
theorem Input.of_with_end (given : List Token) :
    Input.ofTokens (withEnd given) = Input.ofTokens given := by
  unfold withEnd
  split
  case h_1 last =>
    rw [List.getLast?_eq_none_iff.mp last]
    rfl
  case h_2 final last =>
    split
    · rfl
    by_cases some : ∃ token ∈ given, token.kind = .endOfInput
    · obtain ⟨token, member, ended⟩ := some
      obtain ⟨front, ending, behind, rfl, inside, ended⟩ := first_end_of_mem member ended
      rw [List.append_assoc, List.cons_append, of_finished inside ended, of_finished inside ended]
    · have inside : ∀ token ∈ given, token.kind ≠ .endOfInput := by simpa using some
      rw [of_finished inside rfl, of_unfinished inside last]
      rfl

theorem Input.of_append {used back : List Token}
    (inside : ∀ token ∈ used, token.kind ≠ .endOfInput) (more : back ≠ []) :
    (Input.ofTokens (used ++ back)).Behind used (.ofTokens back) := by
  have none : used.find? (·.kind = .endOfInput) = none := by simpa using inside
  constructor
  · exact List.takeWhile_append_of_pos (by simpa using inside)
  · rw [ofTokens, ofTokens, List.find?_append, none, List.getLast?_append_of_ne_nil _ more]
    rfl

namespace Cursor

def input (cursor : Cursor) : Input :=
  .ofTokens (cursor.tokens.toList.drop cursor.current)

theorem of_tokens_input (tokens : List Token) : (ofTokens tokens).input = .ofTokens tokens :=
  Input.of_with_end tokens

section Operations

variable {cursor : Cursor}

theorem tokens_at_hand (cursor : Cursor) : cursor.tokens.toList.drop cursor.current =
    cursor.peek :: cursor.tokens.toList.drop (cursor.current + 1) :=
  List.drop_eq_getElem_cons (by simpa using cursor.current_lt)

theorem advance_of_end (ended : cursor.peek.kind = .endOfInput) : cursor.advance = cursor :=
  dif_pos ended

theorem advance_of_inside (more : cursor.peek.kind ≠ .endOfInput) :
    cursor.advance = ⟨cursor.tokens, cursor.current + 1, cursor.ends_behind more⟩ :=
  dif_neg more

theorem previous_advance (more : cursor.peek.kind ≠ .endOfInput) :
    cursor.advance.previous = cursor.peek := by
  rw [advance_of_inside more]
  rfl

theorem input_of_end (ended : cursor.peek.kind = .endOfInput) :
    cursor.input = ⟨[], cursor.peek.location⟩ := by
  rw [input, tokens_at_hand]
  exact Input.of_finished (List.forall_mem_nil _) ended

theorem input_of_inside (more : cursor.peek.kind ≠ .endOfInput) :
    cursor.input.Behind [cursor.peek] cursor.advance.input := by
  have inside : ∀ token ∈ [cursor.peek], token.kind ≠ .endOfInput := by simpa using more
  obtain ⟨token, member, -⟩ := cursor.ends_behind more
  rw [input, tokens_at_hand, advance_of_inside more]
  exact Input.of_append inside (List.ne_nil_of_mem member)

theorem input_next (cursor : Cursor) : cursor.input.next = cursor.peek.bare := by
  by_cases ended : cursor.peek.kind = .endOfInput
  · rw [input_of_end ended, Token.bare_of_end ended]
    rfl
  · rw [next_of_tokens (input_of_inside ended).tokens, Token.bare_of_inside ended]

theorem input_rest (cursor : Cursor) : cursor.input.rest = cursor.advance.input := by
  by_cases ended : cursor.peek.kind = .endOfInput
  · rw [advance_of_end ended, Input.rest_ended (by rw [input_of_end ended])]
  · exact (input_of_inside ended).rest

theorem ended_eq (cursor : Cursor) :
    TokenStream.ended cursor = TokenStream.ended cursor.input := by
  by_cases ended : cursor.peek.kind = .endOfInput
  · simp [TokenStream.ended, ended, input_of_end ended]
  · simp [TokenStream.ended, ended, (input_of_inside ended).tokens]

theorem left_le (cursor : Cursor) : cursor.input.tokens.length ≤ TokenStream.left cursor := by
  calc cursor.input.tokens.length ≤ (cursor.tokens.toList.drop cursor.current).length :=
        (List.takeWhile_prefix _).length_le
    _ = cursor.tokens.size - cursor.current := by simp

end Operations

/-- A cursor that was moved stands in the same tokens, with the same end of input in front of it. -/
structure Moves (cursor moved : Cursor) : Prop where
  tokens : moved.tokens = cursor.tokens
  finish : moved.current + moved.input.tokens.length = cursor.current + cursor.input.tokens.length

theorem Moves.refl (cursor : Cursor) : cursor.Moves cursor :=
  ⟨rfl, rfl⟩

theorem Moves.trans {first second third : Cursor} (moves : first.Moves second)
    (moves' : second.Moves third) : first.Moves third :=
  ⟨moves'.tokens.trans moves.tokens, moves'.finish.trans moves.finish⟩

theorem moves_advance (cursor : Cursor) : cursor.Moves cursor.advance := by
  by_cases ended : cursor.peek.kind = .endOfInput
  · rw [advance_of_end ended]
    exact .refl cursor
  · have shorter := congrArg List.length (input_of_inside ended).tokens
    constructor
    · rw [advance_of_inside ended]
    · rw [advance_of_inside ended] at shorter ⊢
      simp only [List.length_append, List.length_cons, List.length_nil] at shorter ⊢
      omega

end Cursor

namespace Parser

/-- On the cursor, `parser` answers what `image` answers on what the cursor has left to read, and
moves it to what `image` leaves. -/
def MirroredAt (parser : Parser Cursor α) (image : Parser Input α) (cursor : Cursor) : Prop :=
  image cursor.input = Prod.map id Cursor.input (parser cursor) ∧ cursor.Moves (parser cursor).2

abbrev Mirrored (parser : Parser Cursor α) (image : Parser Input α) : Prop :=
  ∀ cursor, parser.MirroredAt image cursor

variable {parser : Parser Cursor α} {image : Parser Input α} {cursor : Cursor}

theorem MirroredAt.answer (mirrored : parser.MirroredAt image cursor) :
    (parser cursor).1 = (image cursor.input).1 := by
  rw [mirrored.1]
  rfl

theorem MirroredAt.left (mirrored : parser.MirroredAt image cursor) :
    (parser cursor).2.input = (image cursor.input).2 := by
  rw [mirrored.1]
  rfl

theorem pure_mirrored (value : α) : (pure value : Parser Cursor α).Mirrored (pure value) :=
  fun cursor => ⟨rfl, .refl cursor⟩

theorem fail_mirrored (error : Error) : (fail error : Parser Cursor α).Mirrored (fail error) :=
  fun cursor => ⟨rfl, .refl cursor⟩

theorem mirrored_at_bind {second : α → Parser Cursor β} {second' : α → Parser Input β}
    (mirrored : parser.MirroredAt image cursor)
    (mirrored' : ∀ value, (second value).Mirrored (second' value)) :
    (parser >>= second).MirroredAt (image >>= second') cursor := by
  obtain ⟨same, moves⟩ := mirrored
  cases reply : parser cursor with
  | mk answer moved =>
      rw [reply] at same moves
      cases answer with
      | error error =>
          rw [MirroredAt, bind_of_error reply, bind_of_error same]
          exact ⟨rfl, moves⟩
      | ok value =>
          rw [MirroredAt, bind_of_ok reply, bind_of_ok same]
          obtain ⟨same', moves'⟩ := mirrored' value moved
          exact ⟨same', moves.trans moves'⟩

theorem Mirrored.bind {second : α → Parser Cursor β} {second' : α → Parser Input β}
    (mirrored : parser.Mirrored image)
    (mirrored' : ∀ value, (second value).Mirrored (second' value)) :
    (parser >>= second).Mirrored (image >>= second') :=
  fun cursor => mirrored_at_bind (mirrored cursor) mirrored'

theorem Mirrored.map (mirrored : parser.Mirrored image) (f : α → β) :
    (f <$> parser).Mirrored (f <$> image) := by
  rw [map_eq_pure_bind, map_eq_pure_bind]
  exact mirrored.bind fun value => pure_mirrored (f value)

theorem Mirrored.answer_eq (mirrored : parser.Mirrored image) (tokens : List Token) :
    (parser (.ofTokens tokens)).1 = (image (.ofTokens tokens)).1 := by
  rw [(mirrored _).answer, Cursor.of_tokens_input]

/-- Behind a look at the token at hand, which is shown bare to the other side. -/
theorem mirrored_at_next {second : Token → Parser Cursor α} {second' : Token → Parser Input α}
    (mirrored : (second cursor.peek).MirroredAt (second' cursor.peek.bare) cursor) :
    (next >>= second).MirroredAt (next >>= second') cursor := by
  have reply : (next >>= second) cursor = second cursor.peek cursor := rfl
  rw [MirroredAt, reply, next_bind, cursor.input_next]
  exact mirrored

theorem next_mirrored {second : Token → Parser Cursor α} {second' : Token → Parser Input α}
    (mirrored : ∀ found, (second found).Mirrored (second' found.bare)) :
    (next >>= second).Mirrored (next >>= second') :=
  fun cursor => mirrored_at_next (mirrored cursor.peek cursor)

theorem advance_mirrored : advance.Mirrored advance := by
  intro cursor
  have reply : advance cursor.input = (.ok (), cursor.input.rest) := rfl
  rw [MirroredAt, reply, cursor.input_rest]
  exact ⟨rfl, cursor.moves_advance⟩

/-- What is taken is the token passed, which is the one at hand and not the one before it. -/
theorem take_mirrored_at (more : cursor.peek.kind ≠ .endOfInput) : take.MirroredAt take cursor := by
  have reply : take cursor = (.ok cursor.advance.previous, cursor.advance) := rfl
  rw [MirroredAt, reply, take_eq, cursor.previous_advance more, cursor.input_next,
    cursor.input_rest, Token.bare_of_inside more]
  exact ⟨rfl, cursor.moves_advance⟩

theorem Mirrored.behind (mirrored : parser.Mirrored image) :
    (do advance; parser).Mirrored (do advance; image) :=
  advance_mirrored.bind fun _ => mirrored

theorem expect_mirrored (wanted : Expectation) : (expect wanted).Mirrored (expect wanted) := by
  intro cursor
  apply mirrored_at_next
  rw [Token.bare_kind, wanted.error_bare]
  split
  case isTrue member =>
    exact take_mirrored_at fun ended => wanted.end_not_wanted (ended ▸ member)
  case isFalse => exact fail_mirrored _ cursor

theorem refuse_mirrored {kind : Token.Kind} (inside : kind ≠ .endOfInput) (refusal : Refusal) :
    (refuse kind refusal).Mirrored (refuse kind refusal) := by
  apply next_mirrored
  intro found
  rw [Token.bare_kind]
  split
  case isTrue same =>
    rw [Token.bare_of_inside (same ▸ inside)]
    exact fail_mirrored _
  case isFalse => exact pure_mirrored ()

theorem read_if_mirrored (kind : Token.Kind) (mirrored : parser.Mirrored image) :
    (readIf kind parser).Mirrored (readIf kind image) := by
  apply next_mirrored
  intro found
  rw [Token.bare_kind]
  split
  · exact mirrored.map some
  · exact pure_mirrored none

section Loops

variable {more : Token.Kind → Bool}

theorem repeat_within_mirrored {step : α → Parser Cursor α} {step' : α → Parser Input α}
    (mirrored : ∀ value, (step value).Mirrored (step' value)) (bound : Nat) (value : α) :
    (repeatWithin more step bound value).Mirrored (repeatWithin more step' bound value) := by
  induction bound generalizing value with
  | zero => exact pure_mirrored value
  | succ bound induction =>
      intro cursor
      have kind : (TokenStream.next cursor.input).kind = (TokenStream.next cursor).kind :=
        (congrArg Token.kind cursor.input_next).trans cursor.peek.bare_kind
      rw [MirroredAt, repeat_within_round, repeat_within_round, kind, ← cursor.ended_eq]
      split
      · exact mirrored_at_bind (mirrored value cursor) induction
      · exact pure_mirrored value cursor

/-- The bound of a cursor is larger, as it does not know where the first end of input is. -/
theorem repeat_while_mirrored {step : α → Parser Cursor α} {step' : α → Parser Input α}
    (consumes : Consumes more step') (mirrored : ∀ value, (step value).Mirrored (step' value))
    (value : α) : (repeatWhile more step value).Mirrored (repeatWhile more step' value) := by
  intro cursor
  have same : repeatWhile more step' value cursor.input =
      repeatWithin more step' (TokenStream.left cursor) value cursor.input :=
    repeat_within_bound consumes _ _ value cursor.input (Nat.le_refl _) cursor.left_le
  rw [MirroredAt, same]
  exact repeat_within_mirrored mirrored _ value cursor

theorem many_while_mirrored {item : Parser Cursor α} {item' : Parser Input α}
    (consumes : Consumes more (collect item')) (mirrored : item.Mirrored item') :
    (manyWhile more item).Mirrored (manyWhile more item') :=
  (repeat_while_mirrored consumes (fun _ => mirrored.map _) []).map List.reverse

end Loops

end Parser

end Sierra
