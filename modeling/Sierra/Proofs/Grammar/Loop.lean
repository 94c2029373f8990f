import Sierra.Proofs.Grammar.Reads

/-!
# Loops of parsers

A loop bounds its rounds by the tokens left when it begins. Where every round takes a token the
bound is never felt, and the loop is the equation one would write down: another round in front of a
token that asks for one, and nothing otherwise.
-/

namespace Sierra.Parser

set_option autoImplicit false

variable {α β : Type}

/-- Every round that a loop begins and that succeeds takes a token. -/
def Consumes (more : Token.Kind → Bool) (step : α → Parser Input α) : Prop :=
  ∀ value input kind after rest, input.ahead = some kind → more kind = true →
    step value input = (.ok after, rest) → rest.tokens.length < input.tokens.length

theorem repeat_within_round {σ : Type} [TokenStream σ] (more : Token.Kind → Bool)
    (step : α → Parser σ α) (bound : Nat) (value : α) (stream : σ) :
    repeatWithin more step (bound + 1) value stream =
      if !TokenStream.ended stream && more (TokenStream.next stream).kind then
        (step value >>= repeatWithin more step bound) stream
      else (.ok value, stream) := rfl

theorem repeat_within_succ (more : Token.Kind → Bool) (step : α → Parser Input α) (bound : Nat)
    (value : α) (input : Input) :
    repeatWithin more step (bound + 1) value input =
      if input.ahead.any more then (step value >>= repeatWithin more step bound) input
      else (.ok value, input) := by
  rw [repeat_within_round]
  cases tokens : input.tokens with
  | nil => simp [TokenStream.ended, Input.ahead, tokens]
  | cons token rest => simp [TokenStream.ended, TokenStream.next, Input.next, Input.ahead, tokens]

theorem repeat_within_stop {more : Token.Kind → Bool} {step : α → Parser Input α} {input : Input}
    (bound : Nat) (value : α) (stop : input.ahead.any more = false) :
    repeatWithin more step bound value input = (.ok value, input) := by
  cases bound with
  | zero => rfl
  | succ bound => rw [repeat_within_succ, stop]; rfl

theorem bind_congr_at {first : Parser Input α} {second third : α → Parser Input β} {input : Input}
    (same : ∀ value rest, first input = (.ok value, rest) → second value rest = third value rest) :
    (first >>= second) input = (first >>= third) input := by
  cases reply : first input with
  | mk answer rest =>
      cases answer with
      | error error => rw [bind_of_error reply, bind_of_error reply]
      | ok value =>
          rw [bind_of_ok reply, bind_of_ok reply]
          exact same value rest reply

theorem repeat_within_bound {more : Token.Kind → Bool} {step : α → Parser Input α}
    (consumes : Consumes more step) (bound bound' : Nat) (value : α) (input : Input)
    (enough : input.tokens.length ≤ bound) (enough' : input.tokens.length ≤ bound') :
    repeatWithin more step bound value input = repeatWithin more step bound' value input := by
  induction bound generalizing bound' value input with
  | zero =>
      have tokens : input.tokens = [] := by simpa using enough
      have stop : input.ahead.any more = false := by simp [Input.ahead, tokens]
      rw [repeat_within_stop 0 value stop, repeat_within_stop bound' value stop]
  | succ bound induction =>
      by_cases go : input.ahead.any more = true
      · obtain ⟨kind, ahead, goes⟩ := (Option.any_eq_true _ _).mp go
        obtain ⟨next, rest, tokens, -⟩ := ahead_eq_some ahead
        obtain ⟨bound', rfl⟩ : ∃ left, bound' = left + 1 := by
          apply Nat.exists_eq_add_one.mpr
          simp only [tokens, List.length_cons] at enough'
          omega
        rw [repeat_within_succ, repeat_within_succ, go]
        apply bind_congr_at
        intro after rest reply
        have shorter := consumes value input kind after rest ahead goes reply
        exact induction _ _ _ (by omega) (by omega)
      · have stop : input.ahead.any more = false := by simpa using go
        rw [repeat_within_stop _ value stop, repeat_within_stop _ value stop]

theorem repeat_while_eq {more : Token.Kind → Bool} {step : α → Parser Input α}
    (consumes : Consumes more step) (value : α) (input : Input) :
    repeatWhile more step value input =
      if input.ahead.any more then (step value >>= repeatWhile more step) input
      else (.ok value, input) := by
  by_cases go : input.ahead.any more = true
  · obtain ⟨kind, ahead, goes⟩ := (Option.any_eq_true _ _).mp go
    obtain ⟨token, rest, tokens, -⟩ := ahead_eq_some ahead
    rw [if_pos go]
    change repeatWithin more step input.tokens.length value input = _
    rw [tokens, List.length_cons, repeat_within_succ, if_pos go]
    apply bind_congr_at
    intro after left reply
    have shorter := consumes value input kind after left ahead goes reply
    apply repeat_within_bound consumes
    · simp only [tokens, List.length_cons] at shorter
      omega
    · exact Nat.le_refl _
  · rw [if_neg go]
    exact repeat_within_stop _ value (by simpa using go)

/-- A loop that succeeds ends in front of a token that asks for no further round. -/
theorem repeat_within_ends {more : Token.Kind → Bool} {step : α → Parser Input α}
    (consumes : Consumes more step) (bound : Nat) {value result : α} {input rest : Input}
    (enough : input.tokens.length ≤ bound)
    (reply : repeatWithin more step bound value input = (.ok result, rest)) :
    rest.ahead.any more = false := by
  induction bound generalizing value input with
  | zero =>
      have tokens : input.tokens = [] := by simpa using enough
      obtain ⟨-, rfl⟩ := Prod.mk.inj reply
      simp [Input.ahead, tokens]
  | succ bound induction =>
      rw [repeat_within_succ] at reply
      split at reply
      case isTrue go =>
        obtain ⟨kind, ahead, goes⟩ := (Option.any_eq_true _ _).mp go
        obtain ⟨after, left, taken, reply'⟩ := of_bind_ok reply
        have shorter := consumes value input kind after left ahead goes taken
        exact induction (by omega) reply'
      case isFalse stop =>
        obtain ⟨-, rfl⟩ := Prod.mk.inj reply
        simpa using stop

theorem repeat_while_ends {more : Token.Kind → Bool} {step : α → Parser Input α}
    (consumes : Consumes more step) {value result : α} {input rest : Input}
    (reply : repeatWhile more step value input = (.ok result, rest)) :
    rest.ahead.any more = false :=
  repeat_within_ends consumes input.tokens.length (Nat.le_refl _) reply

theorem map_congr_at {first second : Parser Input α} {input input' : Input} (f : α → β)
    (same : first input = second input') : (f <$> first) input = (f <$> second) input' := by
  change Parser.bind first _ input = Parser.bind second _ input'
  simp only [Parser.bind, same]

theorem repeat_while_map {more : Token.Kind → Bool} {step : α → Parser Input α}
    {step' : β → Parser Input β} (h : β → α)
    (commutes : ∀ value, step (h value) = h <$> step' value) (value : β) :
    repeatWhile more step (h value) = h <$> repeatWhile more step' value := by
  have within : ∀ bound value, repeatWithin more step bound (h value) =
      h <$> repeatWithin more step' bound value := by
    intro bound
    induction bound with
    | zero => intro value; rfl
    | succ bound induction =>
        intro value
        funext input
        by_cases go : input.ahead.any more = true
        · have unfolded : repeatWithin more step' (bound + 1) value input =
              (step' value >>= repeatWithin more step' bound) input := by
            rw [repeat_within_succ, if_pos go]
          rw [repeat_within_succ, if_pos go, commutes, map_congr_at h unfolded, map_bind,
            bind_map_left]
          simp only [induction]
        · have stop : input.ahead.any more = false := by simpa using go
          rw [repeat_within_stop _ _ stop]
          have unfolded : repeatWithin more step' (bound + 1) value input =
              (pure value : Parser Input β) input := repeat_within_stop _ _ stop
          rw [map_congr_at h unfolded]
          rfl
  funext input
  exact congrFun (within input.tokens.length value) input

/-- The rounds of `manyWhile`, each in front of the values read before it. -/
abbrev collect (item : Parser Input α) : List α → Parser Input (List α) := fun values =>
  (· :: values) <$> item

theorem many_while_reverse (more : Token.Kind → Bool) (item : Parser Input α) :
    manyWhile more item = List.reverse <$> repeatWhile more (collect item) [] := rfl

theorem collect_cons (more : Token.Kind → Bool) (item : Parser Input α) (value : α) :
    repeatWhile more (collect item) [value] =
      (· ++ [value]) <$> repeatWhile more (collect item) [] := by
  have commutes : ∀ values, collect item (values ++ [value]) =
      (· ++ [value]) <$> collect item values :=
    fun values => comp_map (· :: values) (· ++ [value]) item
  exact repeat_while_map (· ++ [value]) commutes []

theorem repeat_while_fold (more : Token.Kind → Bool) (item : Parser Input α) (f : β → α → β)
    (value : β) :
    repeatWhile more (fun before => f before <$> item) value =
      (fun values => values.foldl f value) <$> manyWhile more item := by
  let folded : List α → β := fun values => values.foldr (fun next before => f before next) value
  have commutes : ∀ values, f (folded values) <$> item = folded <$> collect item values :=
    fun values => comp_map (· :: values) folded item
  have reversed : ((fun values => values.foldl f value) ∘ List.reverse) = folded := by
    funext values
    exact List.foldl_reverse
  rw [many_while_reverse, ← comp_map, reversed]
  exact repeat_while_map folded commutes []

theorem many_while_stop {more : Token.Kind → Bool} {input : Input} (item : Parser Input α)
    (stop : input.ahead.any more = false) : manyWhile more item input = (.ok [], input) := by
  have none : repeatWhile more (collect item) [] input =
      (pure [] : Parser Input (List α)) input := repeat_within_stop _ [] stop
  rw [many_while_reverse, map_congr_at List.reverse none]
  rfl

section Items

variable {more : Token.Kind → Bool} {item : Parser Input α} {input rest : Input}

theorem consumes_collect (consumes : ∀ input kind value rest, input.ahead = some kind →
    more kind = true → item input = (.ok value, rest) →
      rest.tokens.length < input.tokens.length) : Consumes more (collect item) := by
  intro values input kind after rest ahead goes reply
  obtain ⟨value, left, inner, done⟩ := of_bind_ok reply
  obtain ⟨-, rfl⟩ := Prod.mk.inj done
  exact consumes input kind value left ahead goes inner

theorem many_while_ends (consumes : Consumes more (collect item)) {values : List α}
    (reply : manyWhile more item input = (.ok values, rest)) : rest.ahead.any more = false := by
  rw [many_while_reverse] at reply
  obtain ⟨collected, left, inner, done⟩ := of_bind_ok reply
  obtain ⟨-, rfl⟩ := Prod.mk.inj done
  exact repeat_while_ends consumes inner

theorem many_while_go (consumes : Consumes more (collect item))
    (go : input.ahead.any more = true) :
    manyWhile more item input = (List.cons <$> item <*> manyWhile more item) input := by
  have unfolded : repeatWhile more (collect item) [] input =
      (collect item [] >>= repeatWhile more (collect item)) input := by
    rw [repeat_while_eq consumes, if_pos go]
  rw [many_while_reverse, map_congr_at List.reverse unfolded, seq_eq_bind_map, map_bind,
    bind_map_left, bind_map_left]
  apply bind_congr_at
  intro value rest _
  have reversed : (List.reverse ∘ (· ++ [value])) = List.cons value ∘ List.reverse := by
    funext values
    simp
  rw [collect_cons, ← comp_map, ← comp_map, reversed]

end Items

end Sierra.Parser
