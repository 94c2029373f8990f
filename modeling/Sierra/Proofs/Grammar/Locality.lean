import Sierra.Proofs.Grammar.Combinators
import Sierra.Proofs.Tree.Relocation

/-!
# What a parser looks at

A parser looks at the tokens it takes and at the one at hand when it stops, and at nothing else of
its input. Where these tokens are met again, with their locations moved, the same is answered with
its locations moved in the same way. Both facts are one relation between two runs, the run of a
parser and that of its echo on the relocated tokens. It is kept by every way to put parsers
together.
-/

namespace Sierra

set_option autoImplicit false

variable {α β γ δ : Type} {move : Location → Location}

namespace Input

def relocate (move : Location → Location) (input : Input) : Input :=
  ⟨input.tokens.map (Token.relocate move), move input.finish⟩

@[simp] theorem relocate_id (input : Input) : input.relocate id = input := by
  simp [relocate]

/-- The same token is at hand, or both inputs end, and at the same location. -/
structure Alike (first second : Input) : Prop where
  head : first.tokens.head? = second.tokens.head?
  finish : first.tokens = [] → first.finish = second.finish

theorem Alike.refl (input : Input) : input.Alike input :=
  ⟨rfl, fun _ => rfl⟩

theorem Alike.ahead {first second : Input} (alike : first.Alike second) :
    first.ahead = second.ahead := by
  rw [Input.ahead, Input.ahead, alike.head]

theorem Alike.next {first second : Input} (alike : first.Alike second) :
    first.next = second.next := by
  obtain ⟨head, finish⟩ := alike
  cases tokens : first.tokens with
  | nil =>
      have none : second.tokens = [] := by simpa [tokens] using head.symm
      simp only [Input.next, tokens, none, finish tokens]
  | cons token rest =>
      obtain ⟨rest', same⟩ : ∃ rest', second.tokens = token :: rest' := by
        simpa [tokens, List.head?_eq_some_iff] using head.symm
      rw [next_of_tokens tokens, next_of_tokens same]

theorem relocate_next (input : Input) :
    (input.relocate move).next = input.next.relocate move := by
  cases tokens : input.tokens with
  | nil => simp [Input.next, relocate, tokens, Token.relocate, Token.endOfInput]
  | cons token rest => simp [Input.next, relocate, tokens]

theorem relocate_ahead (input : Input) : (input.relocate move).ahead = input.ahead := by
  simp [Input.ahead, relocate, Function.comp_def]

/-- Behind the tokens `front` stands the input `back`. -/
structure Behind (input : Input) (front : List Token) (back : Input) : Prop where
  tokens : input.tokens = front ++ back.tokens
  finish : back.finish = input.finish

theorem Behind.eq {input back : Input} (behind : input.Behind [] back) : input = back := by
  obtain ⟨tokens, finish⟩ := behind
  cases input
  cases back
  simp_all

theorem behind_nil (input : Input) : input.Behind [] input :=
  ⟨rfl, rfl⟩

theorem rest_ended {input : Input} (none : input.tokens = []) : input.rest = input := by
  cases input
  simp_all [rest]

theorem Behind.rest {input back : Input} {token : Token} (behind : input.Behind [token] back) :
    input.rest = back := by
  obtain ⟨tokens, finish⟩ := behind
  cases back
  simp_all [Input.rest]

theorem Behind.trans {input middle back : Input} {front between : List Token}
    (first : input.Behind front middle) (second : middle.Behind between back) :
    input.Behind (front ++ between) back :=
  ⟨by rw [first.tokens, second.tokens, List.append_assoc], second.finish.trans first.finish⟩

/-- What is behind a part of the front is behind the whole of it with the rest of the front left. -/
theorem Behind.split {input back : Input} {front between : List Token}
    (behind : input.Behind (front ++ between) back) : ∃ middle,
      input.Behind front middle ∧ middle.Behind between back :=
  ⟨⟨between ++ back.tokens, input.finish⟩, ⟨by simp [behind.tokens], rfl⟩, rfl, behind.finish⟩

theorem Behind.length_le {input back : Input} {front : List Token}
    (behind : input.Behind front back) : back.tokens.length ≤ input.tokens.length := by
  simp [behind.tokens]

theorem Behind.alike {input other back back' : Input} {front : List Token}
    (behind : input.Behind front back) (behind' : other.Behind front back')
    (alike : back.Alike back') : input.Alike other := by
  cases front with
  | nil => rwa [behind.eq, behind'.eq]
  | cons token front =>
      refine ⟨by simp [behind.tokens, behind'.tokens], ?_⟩
      intro none
      simp [behind.tokens] at none

theorem Behind.relocate {input back : Input} {front : List Token}
    (behind : input.Behind front back) (move : Location → Location) :
    (input.relocate move).Behind (front.map (Token.relocate move)) (back.relocate move) :=
  ⟨by simp [Input.relocate, behind.tokens], by simp [Input.relocate, behind.finish]⟩

end Input

namespace Parser

/-- `echo` answers what `parser` does, with all locations moved: on every input that begins with the
tokens that `parser` takes, relocated, and has the relocated token at hand behind them. -/
def EchoedAt (move : Location → Location) (f : α → β) (parser : Parser Input α)
    (echo : Parser Input β) (input : Input) : Prop :=
  ∃ used, input.Behind used (parser input).2 ∧
    ∀ other rest, other.Behind (used.map (Token.relocate move)) rest →
      rest.Alike ((parser input).2.relocate move) →
      echo other = (relocateAnswer move f (parser input).1, rest)

abbrev Echoed (move : Location → Location) (f : α → β) (parser : Parser Input α)
    (echo : Parser Input β) : Prop :=
  ∀ input, parser.EchoedAt move f echo input

variable {parser : Parser Input α} {echo : Parser Input β} {f : α → β}

/-- Both parsers may be replaced, as long as their replacements agree with them where the kinds of
the tokens at hand agree. -/
theorem echoed_at_congr {parser' : Parser Input α} {echo' : Parser Input β} {input : Input}
    (same : parser input = parser' input)
    (same' : ∀ other : Input, other.ahead = input.ahead → echo other = echo' other)
    (echoed : parser'.EchoedAt move f echo' input) : parser.EchoedAt move f echo input := by
  obtain ⟨used, behind, again⟩ := echoed
  rw [← same] at behind again
  refine ⟨used, behind, ?_⟩
  intro other rest behind' alike
  have ahead : other.ahead = input.ahead :=
    (behind'.alike (behind.relocate move) alike).ahead.trans (Input.relocate_ahead input)
  rw [same' other ahead]
  exact again other rest behind' alike

theorem pure_echoed (value : α) : (pure value : Parser Input α).Echoed move f (pure (f value)) := by
  intro input
  refine ⟨[], input.behind_nil, ?_⟩
  intro other rest behind _
  rw [behind.eq]
  rfl

theorem echoed_at_bind {first : Parser Input α} {first' : Parser Input β}
    {second : α → Parser Input γ} {second' : β → Parser Input δ} {g : γ → δ} {input : Input}
    (echoed : first.EchoedAt move f first' input)
    (echoed' : ∀ value rest, first input = (.ok value, rest) →
      (second value).EchoedAt move g (second' (f value)) rest) :
    (first >>= second).EchoedAt move g (first' >>= second') input := by
  obtain ⟨used, behind, again⟩ := echoed
  cases reply : first input with
  | mk answer middle =>
      rw [reply] at behind again
      cases answer with
      | error error =>
          have failed : (first >>= second) input = (.error error, middle) := bind_of_error reply
          refine ⟨used, by rwa [failed], ?_⟩
          intro other rest behind' alike
          rw [failed] at alike ⊢
          exact bind_of_error (again other rest behind' alike)
      | ok value =>
          have onward : (first >>= second) input = second value middle := bind_of_ok reply
          obtain ⟨used', later, again'⟩ := echoed' value middle reply
          refine ⟨used ++ used', onward ▸ behind.trans later, ?_⟩
          intro other rest behind' alike
          rw [onward] at alike ⊢
          rw [List.map_append] at behind'
          obtain ⟨middle', front, back⟩ := behind'.split
          have between : middle'.Alike (middle.relocate move) :=
            back.alike (later.relocate move) alike
          exact (bind_of_ok (again other middle' front between)).trans
            (again' middle' rest back alike)

theorem Echoed.bind {first : Parser Input α} {first' : Parser Input β} {second : α → Parser Input γ}
    {second' : β → Parser Input δ} {g : γ → δ} (echoed : first.Echoed move f first')
    (echoed' : ∀ value, (second value).Echoed move g (second' (f value))) :
    (first >>= second).Echoed move g (first' >>= second') :=
  fun input => echoed_at_bind (echoed input) fun value rest _ => echoed' value rest

theorem Echoed.map {g : γ → δ} (echoed : parser.Echoed move f echo) (h : α → γ) (h' : β → δ)
    (commutes : ∀ value, h' (f value) = g (h value)) :
    (h <$> parser).Echoed move g (h' <$> echo) := by
  rw [map_eq_pure_bind, map_eq_pure_bind]
  apply echoed.bind
  intro value
  rw [commutes]
  exact pure_echoed (h value)

theorem next_echoed : next.Echoed move (Token.relocate move) next := by
  intro input
  refine ⟨[], input.behind_nil, ?_⟩
  intro other rest behind alike
  have found : other.next = input.next.relocate move := by
    rw [behind.eq, alike.next]
    exact input.relocate_next
  rw [behind.eq] at found ⊢
  exact congrArg (fun token => (Except.ok token, rest)) found

theorem take_echoed : take.Echoed move (Token.relocate move) take := by
  intro input
  cases tokens : input.tokens with
  | nil =>
      have passed : take input = (.ok input.next, input) := by rw [take_eq, Input.rest_ended tokens]
      refine ⟨[], passed ▸ input.behind_nil, ?_⟩
      intro other rest behind alike
      rw [passed] at alike ⊢
      have none : rest.tokens = [] := by simpa [Input.relocate, tokens] using alike.head
      rw [behind.eq, take_eq, Input.rest_ended none, alike.next, Input.relocate_next]
      rfl
  | cons token after =>
      refine ⟨[token], ⟨by simp [take_eq, Input.rest, tokens], rfl⟩, ?_⟩
      intro other rest behind _
      rw [take_eq, take_eq, behind.rest, next_of_tokens behind.tokens, next_of_tokens tokens]
      rfl

theorem advance_echoed : advance.Echoed move id advance := by
  have same : (advance : Parser Input Unit) = take >>= fun _ => pure () := rfl
  rw [same]
  exact take_echoed.bind fun _ => pure_echoed ()

theorem Echoed.behind (echoed : parser.Echoed move f echo) :
    (do advance; parser).Echoed move f (do advance; echo) :=
  advance_echoed.bind fun _ => echoed

theorem fail_echoed (error : Error) :
    (fail error : Parser Input α).Echoed move f (fail (error.relocate move)) := by
  intro input
  refine ⟨[], input.behind_nil, ?_⟩
  intro other rest behind _
  rw [behind.eq]
  rfl

theorem expect_echoed (wanted : Expectation) :
    (expect wanted).Echoed move (Token.relocate move) (expect wanted) := by
  apply next_echoed.bind
  intro found
  rw [Token.relocate_kind, wanted.relocate_error]
  split
  · exact take_echoed
  · exact fail_echoed _

theorem refuse_echoed (kind : Token.Kind) {refusal refusal' : Refusal}
    (same : refusal' = refusal) : (refuse kind refusal).Echoed move id (refuse kind refusal') := by
  subst same
  apply next_echoed.bind
  intro found
  rw [Token.relocate_kind, refusal'.relocate_error]
  split
  · exact fail_echoed _
  · exact pure_echoed ()

theorem read_if_echoed (kind : Token.Kind) (echoed : parser.Echoed move f echo) :
    (readIf kind parser).Echoed move (Option.map f) (readIf kind echo) := by
  apply next_echoed.bind
  intro found
  rw [Token.relocate_kind]
  split
  · exact echoed.map some some fun _ => rfl
  · exact pure_echoed none

section Loops

variable {more : Token.Kind → Bool}

theorem repeat_while_echoed {f : α → α} {step : α → Parser Input α} (consumes : Consumes more step)
    (echoed : ∀ value, (step value).Echoed move f (step (f value))) (value : α) :
    (repeatWhile more step value).Echoed move f (repeatWhile more step (f value)) := by
  intro input
  -- On the tokens left, of which a round that succeeds takes one.
  induction length : input.tokens.length using Nat.strong_induction_on generalizing input value with
  | _ size induction =>
  by_cases go : input.ahead.any more = true
  · obtain ⟨kind, ahead, goes⟩ := (Option.any_eq_true _ _).mp go
    have again : (step value >>= repeatWhile more step).EchoedAt move f
        (step (f value) >>= repeatWhile more step) input := by
      apply echoed_at_bind (echoed value input)
      intro after rest reply
      have shorter := consumes value input kind after rest ahead goes reply
      exact induction _ (length ▸ shorter) after rest rfl
    apply echoed_at_congr _ _ again
    · rw [repeat_while_eq consumes, if_pos go]
    · intro other same
      rw [repeat_while_eq consumes, if_pos (same ▸ go)]
  · apply echoed_at_congr _ _ (pure_echoed value input)
    · rw [repeat_while_eq consumes, if_neg go]
      rfl
    · intro other same
      rw [repeat_while_eq consumes, if_neg (same ▸ go)]
      rfl

theorem many_while_echoed {item : Parser Input α} {f : α → α}
    (consumes : Consumes more (collect item)) (echoed : item.Echoed move f item) :
    (manyWhile more item).Echoed move (List.map f) (manyWhile more item) := by
  rw [many_while_reverse]
  apply Echoed.map (repeat_while_echoed (f := List.map f) consumes _ [])
  · intro values
    exact List.map_reverse.symm
  · intro values
    exact echoed.map _ _ fun _ => rfl

theorem consumes_behind {kind : Token.Kind} {step : α → Parser Input α} {g : α → β}
    {step' : α → Parser Input β} (echoed : ∀ value, (step value).Echoed move g (step' value)) :
    Consumes (· = kind) (fun value => do advance; step value) := by
  intro value input first after rest ahead _ reply
  obtain ⟨token, left, tokens, -⟩ := ahead_eq_some ahead
  have onward : step value input.rest = (.ok after, rest) := reply
  obtain ⟨used, behind, -⟩ := echoed value input.rest
  rw [onward] at behind
  calc rest.tokens.length ≤ input.rest.tokens.length := behind.length_le
    _ < input.tokens.length := by simp [Input.rest, tokens]

theorem many_behind_echoed (kind : Token.Kind) {item : Parser Input α} {f : α → α}
    (echoed : item.Echoed move f item) :
    (manyWhile (· = kind) do advance; item).Echoed move (List.map f)
      (manyWhile (· = kind) do advance; item) := by
  apply many_while_echoed
  · have collects : collect (advance >>= fun _ => item) =
        fun values => advance >>= fun _ => collect item values := by
      funext values
      exact map_bind _ _ _
    rw [collects]
    have rounds : ∀ values, (collect item values).Echoed move (List.map f)
        (collect item (values.map f)) := fun values => echoed.map _ _ fun _ => rfl
    exact consumes_behind rounds
  · exact echoed.behind

end Loops

theorem Echoed.relocate {f : α → β} (echoed : parser.Echoed move f echo) (input : Input) :
    echo (input.relocate move) =
      (relocateAnswer move f (parser input).1, (parser input).2.relocate move) := by
  obtain ⟨used, behind, again⟩ := echoed input
  exact again _ _ (behind.relocate move) (.refl _)

end Parser

end Sierra
