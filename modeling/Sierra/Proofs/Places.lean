import Sierra.Proofs.Grammar.Mirrors

/-!
# Places in a list of tokens

Tokens are read from the first one on, with an end of input behind them. A place is the index of the
token at hand, which is where a cursor stands, and what is left at a place is an input. An end of
input is never passed, so a step that begins at a place stops at one that is not behind the first
end of input, and the next step begins there.
-/

namespace Sierra

set_option autoImplicit false

def firstEnd (tokens : List Token) : Nat :=
  tokens.findIdx (·.kind = .endOfInput)

def Input.atPlace (tokens : List Token) (place : Nat) : Input :=
  .ofTokens (tokens.drop place)

/-- The first end of input, with what stands in front of it and what stands behind it. -/
structure FirstEnd (tokens front : List Token) (ending : Token) (behind : List Token) : Prop where
  tokens : tokens = front ++ ending :: behind
  inside : ∀ token ∈ front, token.kind ≠ .endOfInput
  ended : ending.kind = .endOfInput

theorem with_end_first_end (given : List Token) : ∃ front ending behind,
    FirstEnd (withEnd given) front ending behind := by
  obtain ⟨token, member, ended⟩ := end_mem_with_end given
  obtain ⟨front, ending, behind, same, inside, ended⟩ := first_end_of_mem member ended
  exact ⟨front, ending, behind, same, inside, ended⟩

section Places

variable {tokens front behind : List Token} {ending : Token} {place : Nat}

namespace FirstEnd

theorem index (first : FirstEnd tokens front ending behind) : firstEnd tokens = front.length := by
  obtain ⟨rfl, inside, ended⟩ := first
  induction front with
  | nil => simp [firstEnd, List.findIdx_cons, ended]
  | cons token front induction =>
      have later := induction fun other member => inside other (by simp [member])
      have other : token.kind ≠ .endOfInput := inside token (by simp)
      simpa [firstEnd, List.findIdx_cons, other] using later

theorem at_place (first : FirstEnd tokens front ending behind) (bound : place ≤ front.length) :
    Input.atPlace tokens place = ⟨front.drop place, ending.location⟩ := by
  have inside : ∀ token ∈ front.drop place, token.kind ≠ .endOfInput :=
    fun token member => first.inside token (List.mem_of_mem_drop member)
  rw [Input.atPlace, first.tokens, List.drop_append_of_le_length bound,
    Input.of_finished inside first.ended]

theorem next_eq (first : FirstEnd tokens front ending behind) (bound : place ≤ front.length) :
    ∃ token, tokens[place]? = some token ∧ (Input.atPlace tokens place).next.kind = token.kind ∧
      (Input.atPlace tokens place).next.location = token.location := by
  rw [first.at_place bound, first.tokens]
  rcases bound.lt_or_eq with before | rfl
  · refine ⟨front[place], ?_, ?_⟩
    · rw [List.getElem?_append_left before, List.getElem?_eq_getElem before]
    · rw [List.drop_eq_getElem_cons before]
      exact ⟨rfl, rfl⟩
  · refine ⟨ending, by simp, ?_⟩
    rw [List.drop_length]
    exact ⟨first.ended.symm, rfl⟩

theorem rest_eq (first : FirstEnd tokens front ending behind) (bound : place ≤ front.length) :
    (Input.atPlace tokens place).rest = Input.atPlace tokens (min (place + 1) front.length) := by
  rw [first.at_place bound, first.at_place (Nat.min_le_right ..), Input.rest, List.tail_drop]
  rcases bound.lt_or_eq with before | rfl
  · rw [Nat.min_eq_left before]
  · simp

theorem reaches (first : FirstEnd tokens front ending behind) (bound : place ≤ front.length)
    {used : List Token} {rest : Input} (taken : (Input.atPlace tokens place).Behind used rest) :
    place + used.length ≤ front.length ∧ rest = Input.atPlace tokens (place + used.length) := by
  rw [first.at_place bound] at taken
  have split : front.drop place = used ++ rest.tokens := taken.tokens
  have lengths := congrArg List.length split
  simp only [List.length_drop, List.length_append] at lengths
  have within : place + used.length ≤ front.length := by omega
  refine ⟨within, ?_⟩
  have left : front.drop (place + used.length) = rest.tokens := by
    rw [← List.drop_drop, split, List.drop_left]
  rw [first.at_place within, left]
  exact congrArg (Input.mk rest.tokens) taken.finish

/-- The tokens taken from a place on are no ends of input, and behind them stands another token. -/
theorem window (first : FirstEnd tokens front ending behind) (bound : place ≤ front.length)
    {used : List Token} {rest : Input} (taken : (Input.atPlace tokens place).Behind used rest) :
    (∀ token ∈ used, token.kind ≠ .endOfInput) ∧
      ∃ found back, tokens.drop place = used ++ found :: back := by
  rw [first.at_place bound] at taken
  have split : front.drop place = used ++ rest.tokens := taken.tokens
  constructor
  · intro token member
    apply first.inside token (List.mem_of_mem_drop (i := place) _)
    rw [split]
    exact List.mem_append_left _ member
  · obtain ⟨found, back, next⟩ : ∃ found back, rest.tokens ++ ending :: behind = found :: back :=
      List.exists_cons_of_ne_nil (by simp)
    refine ⟨found, back, ?_⟩
    rw [first.tokens, List.drop_append_of_le_length bound, split, List.append_assoc, next]

theorem place_unique (first : FirstEnd tokens front ending behind) {other : Nat}
    (bound : place ≤ firstEnd tokens) (bound' : other ≤ firstEnd tokens)
    (same : Input.atPlace tokens place = Input.atPlace tokens other) : place = other := by
  rw [first.index] at bound bound'
  rw [first.at_place bound, first.at_place bound'] at same
  have lengths := congrArg (fun input => input.tokens.length) same
  simp only [List.length_drop] at lengths
  omega

end FirstEnd

end Places

section Steps

def Step.rule : Step → Rule
  | file => .sourceFile
  | tree rule => rule
  | whole rule => rule

/-- Where a step that begins at a place stops, by what it answers. -/
structure Step.Passes (step : Step) (tokens : List Token) (place : Nat)
    (answer : Except Error Node) (stop : Nat) : Prop where
  forward : place ≤ stop
  within : stop ≤ firstEnd tokens
  progress : ∀ node, answer = .ok node → step.rule ≠ .sourceFile → place < stop
  complete : ∀ node, answer = .ok node → (∀ rule, step ≠ .tree rule) → stop = firstEnd tokens
  blame : ∀ error, answer = .error error → tokens[stop]?.map (·.location) = some error.location

/-- Answers to steps with the places where these stopped, each of which is where the next began. -/
inductive Course (tokens : List Token) : Nat → List Step → List (Except Error Node × Nat) → Prop
    where
  | done {place : Nat} : Course tokens place [] []
  | step {place stop : Nat} {step : Step} {steps : List Step} {answer : Except Error Node}
      {stops : List (Except Error Node × Nat)} :
      step.Passes tokens place answer stop → Course tokens stop steps stops →
      Course tokens place (step :: steps) ((answer, stop) :: stops)

theorem Step.read_run (step : Step) (input : Input)
    (inside : ∀ token ∈ input.tokens, token.kind ≠ .endOfInput) :
    ∃ used, Run step.rule.phrase (· = none) input used (step.read input) ∧
      ∀ node, (step.read input).1 = .ok node → (∀ rule, step ≠ .tree rule) →
        (step.read input).2.tokens = [] := by
  cases step with
  | file =>
      obtain ⟨outline, reading, -⟩ := Rule.sourceFile.reading
      obtain ⟨used, run⟩ := reading.reads input
      refine ⟨used, run, ?_⟩
      intro node answer _
      have reply : Step.file.read input = (.ok node, (Step.file.read input).2) :=
        Prod.ext answer rfl
      obtain ⟨tree, rest, inner, done⟩ := Parser.of_bind_ok reply
      obtain ⟨-, left⟩ := Prod.mk.inj done
      rw [← left]
      simpa [Input.ahead] using SourceFile.read_ends inner
  | tree rule =>
      obtain ⟨outline, reading, -⟩ := rule.reading
      obtain ⟨used, run⟩ := reading.reads input
      exact ⟨used, run, fun _ _ absurdity => absurd rfl (absurdity rule)⟩
  | whole rule =>
      obtain ⟨used, run, ends⟩ := rule.read_whole_run input inside
      exact ⟨used, run, fun node answer _ => ends node answer⟩

variable {tokens front behind : List Token} {ending : Token} {place : Nat}

theorem FirstEnd.passes (first : FirstEnd tokens front ending behind) (bound : place ≤ front.length)
    (step : Step) : ∃ stop, (step.read (Input.atPlace tokens place)).2 = Input.atPlace tokens stop ∧
      step.Passes tokens place (step.read (Input.atPlace tokens place)).1 stop := by
  have inside : ∀ token ∈ (Input.atPlace tokens place).tokens, token.kind ≠ .endOfInput := by
    rw [first.at_place bound]
    exact fun token member => first.inside token (List.mem_of_mem_drop member)
  obtain ⟨used, run, whole⟩ := step.read_run _ inside
  obtain ⟨within, stopped⟩ := first.reaches bound ⟨run.tokens, run.finish⟩
  refine ⟨place + used.length, stopped, Nat.le_add_right .., first.index ▸ within, ?_, ?_, ?_⟩
  · intro node answer other
    have derived : step.rule.phrase used node := (run.accepted node answer node).mpr rfl
    have some : used ≠ [] := by
      rintro rfl
      exact step.rule.solid other (Phrase.kinds_mem_sentences derived)
    have positive := List.length_pos_iff.mpr some
    omega
  · intro node answer all
    have nothing := whole node answer all
    rw [stopped, first.at_place within, List.drop_eq_nil_iff] at nothing
    rw [first.index]
    exact Nat.le_antisymm within nothing
  · intro error answer
    obtain ⟨found, here, -, location⟩ := first.next_eq within
    rw [here, (run.rejected error answer).1, stopped, location]
    rfl

end Steps

namespace Cursor

/-- The answers to steps with the places where these leave the cursor. -/
def course (cursor : Cursor) (steps : List Step) : List (Except Error Node × Nat) :=
  (cursor.run steps).map (Prod.map id current)

/-- Cursors that have the same left to read differ in nothing but their places. -/
theorem course_shift {cursor other : Cursor} {shift : Nat} (same : cursor.input = other.input)
    (shifted : cursor.current = other.current + shift) (steps : List Step) :
    cursor.course steps = (other.course steps).map (Prod.map id (· + shift)) := by
  induction steps generalizing cursor other with
  | nil => rfl
  | cons step steps induction =>
      have mirrored := step.mirrored cursor
      have mirrored' := step.mirrored other
      have answer : (step.read cursor).1 = (step.read other).1 := by
        rw [mirrored.answer, mirrored'.answer, same]
      have left : (step.read cursor).2.input = (step.read other).2.input := by
        rw [mirrored.left, mirrored'.left, same]
      have place : (step.read cursor).2.current = (step.read other).2.current + shift := by
        have finish := mirrored.2.finish
        have finish' := mirrored'.2.finish
        rw [same, left] at finish
        omega
      have first : Prod.map id current (step.read cursor) =
          Prod.map id (· + shift) (Prod.map id current (step.read other)) := Prod.ext answer place
      exact congrArg₂ List.cons first (induction left place)

/-- What a cursor reads is in the tokens, and it moves from each place to the next one, except that
it does not pass an end of input. -/
structure Safe (cursor : Cursor) (tokens : List Token) : Prop where
  peek : tokens[cursor.current]? = some cursor.peek
  previous : tokens[cursor.current - 1]? = some cursor.previous
  advance : cursor.advance.current = min (cursor.current + 1) (firstEnd tokens)
  passed : cursor.current < firstEnd tokens → cursor.advance.previous = cursor.peek

end Cursor

section Cursors

variable {tokens front behind : List Token} {ending : Token} {cursor moved : Cursor}

theorem Cursor.input_eq (same : cursor.tokens.toList = tokens) :
    cursor.input = Input.atPlace tokens cursor.current := by
  rw [Cursor.input, same]
  rfl

theorem Cursor.at_hand (same : cursor.tokens.toList = tokens) :
    tokens[cursor.current]? = some cursor.peek := by
  rw [← same, Array.getElem?_toList]
  exact Array.getElem?_eq_getElem cursor.current_lt

theorem FirstEnd.peek_ended (first : FirstEnd tokens front ending behind)
    (same : cursor.tokens.toList = tokens) (bound : cursor.current ≤ front.length) :
    cursor.peek.kind = .endOfInput ↔ cursor.current = front.length := by
  have here := Cursor.at_hand same
  rw [first.tokens] at here
  rcases bound.lt_or_eq with before | final
  · have inside : cursor.peek ∈ front := by
      rw [List.getElem?_append_left before] at here
      exact List.mem_of_getElem? here
    simp [first.inside _ inside, before.ne]
  · have last : ending = cursor.peek := by simpa [final] using here
    simp [← last, first.ended, final]

theorem FirstEnd.safe (first : FirstEnd tokens front ending behind)
    (same : cursor.tokens.toList = tokens) (bound : cursor.current ≤ front.length) :
    cursor.Safe tokens := by
  have ended := first.peek_ended same bound
  refine ⟨Cursor.at_hand same, ?_, ?_, ?_⟩
  · have inside : cursor.current - 1 < cursor.tokens.size :=
      Nat.lt_of_le_of_lt (Nat.sub_le ..) cursor.current_lt
    rw [← same, Array.getElem?_toList]
    exact Array.getElem?_eq_getElem inside
  · rw [first.index]
    by_cases final : cursor.current = front.length
    · rw [Cursor.advance_of_end (ended.mpr final), final]
      simp
    · rw [Cursor.advance_of_inside (mt ended.mp final)]
      exact (Nat.min_eq_left (Nat.lt_of_le_of_ne bound final)).symm
  · rw [first.index]
    exact fun before => Cursor.previous_advance (mt ended.mp before.ne)

theorem FirstEnd.current_eq (first : FirstEnd tokens front ending behind) {place : Nat}
    (same : cursor.tokens.toList = tokens) (bound : cursor.current ≤ front.length)
    (moves : cursor.Moves moved) (within : place ≤ front.length)
    (left : moved.input = Input.atPlace tokens place) : moved.current = place := by
  have finish := moves.finish
  rw [left, Cursor.input_eq same, first.at_place within, first.at_place bound] at finish
  simp only [List.length_drop] at finish
  omega

theorem FirstEnd.course (first : FirstEnd tokens front ending behind)
    (same : cursor.tokens.toList = tokens) (bound : cursor.current ≤ front.length)
    (steps : List Step) : Course tokens cursor.current steps (cursor.course steps) := by
  -- Each step begins where the one before it stopped.
  induction steps generalizing cursor with
  | nil => exact .done
  | cons step steps induction =>
      obtain ⟨stop, stopped, passes⟩ := first.passes bound step
      obtain ⟨reply, moves⟩ := step.mirrored cursor
      rw [← Cursor.input_eq same, reply] at stopped passes
      have within : stop ≤ front.length := first.index ▸ passes.within
      have place := first.current_eq same bound moves within stopped
      subst place
      exact .step passes (induction ((congrArg Array.toList moves.tokens).trans same) within)

end Cursors

theorem Input.at_start (given : List Token) :
    Input.atPlace (withEnd given) 0 = Input.ofTokens given := by
  rw [atPlace, List.drop_zero, of_with_end]

theorem places_are_safe (given : List Token) (steps : List Step) :
    firstEnd (withEnd given) < (withEnd given).length ∧
    (∀ place : Fin (firstEnd (withEnd given) + 1), ∃ token,
      (withEnd given)[place.val]? = some token ∧
      (Input.atPlace (withEnd given) place).next.kind = token.kind ∧
      (Input.atPlace (withEnd given) place).next.location = token.location ∧
      (Input.atPlace (withEnd given) place).rest =
        Input.atPlace (withEnd given) (min (place + 1) (firstEnd (withEnd given)))) ∧
    (∀ cursor : Cursor, cursor.tokens.toList = withEnd given →
      cursor.current ≤ firstEnd (withEnd given) → cursor.Safe (withEnd given)) ∧
    (∀ reply ∈ (Cursor.ofTokens given).run steps, reply.2.tokens.toList = withEnd given) ∧
    Course (withEnd given) 0 steps ((Cursor.ofTokens given).course steps) ∧
    (Input.ofTokens given).run steps = ((Cursor.ofTokens given).course steps).map
      (Prod.map id (Input.atPlace (withEnd given))) ∧
    (Cursor.ofTokens ((withEnd given).take (firstEnd (withEnd given) + 1))).course steps =
      (Cursor.ofTokens given).course steps ∧
    (Input.ofTokens ((withEnd given).take (firstEnd (withEnd given) + 1))).run steps =
      (Input.ofTokens given).run steps := by
  obtain ⟨front, ending, behind, first⟩ := with_end_first_end given
  have start := Cursor.of_tokens_input given
  obtain ⟨replies, moves⟩ := (Cursor.ofTokens given).run_mirrored steps
  have tokens : ∀ reply ∈ (Cursor.ofTokens given).run steps,
      reply.2.tokens.toList = withEnd given :=
    fun reply member => congrArg Array.toList (moves reply member).tokens
  have cut : Input.ofTokens ((withEnd given).take (firstEnd (withEnd given) + 1)) =
      Input.ofTokens given := by
    have taken : (withEnd given).take (firstEnd (withEnd given) + 1) = front ++ [ending] := by
      rw [first.index, first.tokens]
      simp [List.take_append]
    rw [taken, ← Input.of_with_end given, first.tokens, Input.of_finished first.inside first.ended,
      Input.of_finished first.inside first.ended]
  refine ⟨?_, ?_, ?_, tokens, ?_, ?_, ?_, by rw [cut]⟩
  · rw [first.index, first.tokens, List.length_append, List.length_cons]
    omega
  · intro place
    have bound : place.val ≤ front.length := first.index ▸ Nat.lt_succ_iff.mp place.isLt
    obtain ⟨token, here, kind, location⟩ := first.next_eq bound
    have passed := first.rest_eq bound
    rw [← first.index] at passed
    exact ⟨token, here, kind, location, passed⟩
  · exact fun cursor same bound => first.safe same (first.index ▸ bound)
  · have all : (Cursor.ofTokens given).tokens.toList = withEnd given := rfl
    exact first.course all (Nat.zero_le _) steps
  · rw [← start, replies, Cursor.course, List.map_map]
    apply List.map_congr_left
    intro reply member
    exact Prod.ext rfl (Cursor.input_eq (tokens reply member))
  · have same := (Cursor.of_tokens_input _).trans (cut.trans start.symm)
    have moved := Cursor.course_shift same (Nat.add_zero 0).symm steps
    have none : Prod.map id (· + 0) = @id (Except Error Node × Nat) := rfl
    rwa [none, List.map_id] at moved

def haltedTokens : List Token :=
  [⟨.identifier, "a", ⟨1, 1, 0, none⟩⟩, .endOfInput ⟨1, 2, 1, none⟩,
    ⟨.identifier, "b", ⟨1, 3, 2, none⟩⟩]

/-- The name behind the end of input is never read, although another end stands behind it. -/
theorem name_behind_end_is_not_read :
    (Cursor.ofTokens haltedTokens).Safe (withEnd haltedTokens) ∧
    (Cursor.ofTokens haltedTokens).course [.tree .qualifiedIdentifier, .tree .expression] =
      [(.ok (.qualifiedIdentifier ⟨[⟨"a", ⟨1, 1, 0, none⟩⟩]⟩), 1),
        (.error ⟨.incomplete "Expected expression, found end of input" .expression,
          ⟨1, 2, 1, none⟩⟩, 1)] ∧
    (Cursor.ofTokens (haltedTokens.take 2)).course [.tree .qualifiedIdentifier, .tree .expression] =
      (Cursor.ofTokens haltedTokens).course [.tree .qualifiedIdentifier, .tree .expression] := by
  obtain ⟨-, -, safe, -, -, -, cut, -⟩ :=
    places_are_safe haltedTokens [.tree .qualifiedIdentifier, .tree .expression]
  exact ⟨safe _ rfl (Nat.zero_le _), rfl, cut⟩

end Sierra
