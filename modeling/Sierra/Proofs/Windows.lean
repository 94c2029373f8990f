import Sierra.Proofs.Places

/-!
# What a step depends on

A step that begins at one place and stops at another has looked at the tokens between the two, the
last one included, and at nothing else. Wherever these tokens are met again it answers the same and
stops as far behind. Neither the tokens in front, nor the steps that were taken there, nor the
tokens behind have a part in it.
-/

namespace Sierra

set_option autoImplicit false

theorem Input.of_cons_alike (found : Token) (behind behind' : List Token) :
    (Input.ofTokens (found :: behind)).Alike (.ofTokens (found :: behind')) := by
  by_cases ended : found.kind = .endOfInput
  · have alone : ∀ after, Input.ofTokens ([] ++ found :: after) = ⟨[], found.location⟩ :=
      fun after => of_finished (List.forall_mem_nil _) ended
    have same : Input.ofTokens (found :: behind) = Input.ofTokens (found :: behind') :=
      (alone behind).trans (alone behind').symm
    rw [same]
    exact .refl _
  · constructor
    · simp [ofTokens, ended]
    · simp [ofTokens, ended]

theorem drop_of_same_window {tokens others used back : List Token} {found : Token}
    {place place' : Nat} (split : tokens.drop place = used ++ found :: back)
    (same : ∀ index ≤ used.length, others[place' + index]? = tokens[place + index]?) :
    ∃ back', others.drop place' = used ++ found :: back' := by
  have windows : (others.drop place').take (used.length + 1) = used ++ [found] := by
    calc (others.drop place').take (used.length + 1)
        = (tokens.drop place).take (used.length + 1) := by
          apply List.ext_getElem?
          intro index
          rw [List.getElem?_take, List.getElem?_take]
          split
          · rw [List.getElem?_drop, List.getElem?_drop]
            exact same index (by omega)
          · rfl
      _ = used ++ [found] := by rw [split]; simp [List.take_append]
  refine ⟨(others.drop place').drop (used.length + 1), ?_⟩
  calc others.drop place'
      = (used ++ [found]) ++ (others.drop place').drop (used.length + 1) := by
        rw [← windows, List.take_append_drop]
    _ = used ++ found :: _ := by rw [List.append_assoc]; rfl

theorem FirstEnd.read_again {tokens front behind : List Token} {ending : Token} {place : Nat}
    (first : FirstEnd tokens front ending behind) (bound : place ≤ front.length) (step : Step) :
    ∃ answer stop, place ≤ stop ∧ stop ≤ front.length ∧
      step.read (Input.atPlace tokens place) = (answer, Input.atPlace tokens stop) ∧
      ∀ others place', (∀ index ≤ stop - place, others[place' + index]? = tokens[place + index]?) →
        step.read (Input.atPlace others place') =
          (answer, Input.atPlace others (place' + (stop - place))) ∧
        (Input.atPlace others place').tokens.length =
          stop - place + (Input.atPlace others (place' + (stop - place))).tokens.length := by
  have echoed : step.read.Echoed id (Node.relocate id) step.read := step.echoed
  obtain ⟨used, taken, again⟩ := echoed (Input.atPlace tokens place)
  obtain ⟨within, stopped⟩ := first.reaches bound taken
  obtain ⟨inside, found, back, whole⟩ := first.window bound taken
  refine ⟨_, place + used.length, Nat.le_add_right .., within, Prod.ext rfl stopped, ?_⟩
  intro others place' same
  rw [Nat.add_sub_cancel_left] at same ⊢
  have onward : tokens.drop (place + used.length) = found :: back := by
    rw [← List.drop_drop, whole, List.drop_left]
  -- The other tokens go on with the same window and then as they like.
  obtain ⟨back', whole'⟩ := drop_of_same_window whole same
  have onward' : others.drop (place' + used.length) = found :: back' := by
    rw [← List.drop_drop, whole', List.drop_left]
  have taken' : (Input.atPlace others place').Behind used
      (Input.atPlace others (place' + used.length)) := by
    rw [Input.atPlace, Input.atPlace, whole', onward']
    exact Input.of_append inside (List.cons_ne_nil found back')
  have alike : (Input.atPlace others (place' + used.length)).Alike
      (step.read (Input.atPlace tokens place)).2 := by
    rw [stopped, Input.atPlace, Input.atPlace, onward, onward']
    exact Input.of_cons_alike ..
  have reply := again (Input.atPlace others place') (Input.atPlace others (place' + used.length))
    (by simpa using taken') (by simpa using alike)
  exact ⟨by simpa using reply, by rw [taken'.tokens, List.length_append]⟩

namespace TokenStream

variable {σ : Type} [TokenStream σ]

def after (stream : σ) : List Step → σ
  | [] => stream
  | step :: steps => after (step.read stream).2 steps

theorem run_append (stream : σ) (steps later : List Step) :
    run stream (steps ++ later) = run stream steps ++ run (after stream steps) later := by
  induction steps generalizing stream with
  | nil => rfl
  | cons step steps induction => exact congrArg (List.cons _) (induction _)

end TokenStream

abbrev Input.after (input : Input) (steps : List Step) : Input :=
  TokenStream.after input steps

abbrev Cursor.after (cursor : Cursor) (steps : List Step) : Cursor :=
  TokenStream.after cursor steps

theorem Cursor.after_mirrored (cursor : Cursor) (steps : List Step) :
    cursor.input.after steps = (cursor.after steps).input ∧ cursor.Moves (cursor.after steps) := by
  induction steps generalizing cursor with
  | nil => exact ⟨rfl, .refl cursor⟩
  | cons step steps induction =>
      have mirrored := step.mirrored cursor
      obtain ⟨left, moves⟩ := induction (step.read cursor).2
      rw [mirrored.left] at left
      exact ⟨left, mirrored.2.trans moves⟩

theorem FirstEnd.after {tokens front behind : List Token} {ending : Token} {place : Nat}
    (first : FirstEnd tokens front ending behind) (bound : place ≤ front.length)
    (steps : List Step) : ∃ stop, stop ≤ front.length ∧
      (Input.atPlace tokens place).after steps = Input.atPlace tokens stop := by
  induction steps generalizing place with
  | nil => exact ⟨place, bound, rfl⟩
  | cons step steps induction =>
      obtain ⟨stop, stopped, passes⟩ := first.passes bound step
      rw [Input.after, TokenStream.after, stopped]
      exact induction (first.index ▸ passes.within)

theorem FirstEnd.move_again {tokens front behind : List Token} {ending : Token} {cursor : Cursor}
    (first : FirstEnd tokens front ending behind) (same : cursor.tokens.toList = tokens)
    (bound : cursor.current ≤ front.length) (step : Step) (cursor' : Cursor)
    (window : ∀ index ≤ (step.read cursor).2.current - cursor.current,
      cursor'.tokens[cursor'.current + index]? = cursor.tokens[cursor.current + index]?) :
    (step.read cursor').1 = (step.read cursor).1 ∧
      (step.read cursor').2.current =
        cursor'.current + ((step.read cursor).2.current - cursor.current) := by
  obtain ⟨answer, stop, forward, within, reply, again⟩ := first.read_again bound step
  have mirrored := step.mirrored cursor
  have mirrored' := step.mirrored cursor'
  rw [← Cursor.input_eq same] at reply
  have place : (step.read cursor).2.current = stop :=
    first.current_eq same bound mirrored.2 within (by rw [mirrored.left, reply])
  rw [place] at window ⊢
  obtain ⟨reply', passed⟩ := again cursor'.tokens.toList cursor'.current
    (by simpa [← same] using window)
  rw [← Cursor.input_eq rfl] at reply' passed
  have left : (step.read cursor').2.input = Input.atPlace cursor'.tokens.toList
      (cursor'.current + (stop - cursor.current)) := by rw [mirrored'.left, reply']
  constructor
  · rw [mirrored.answer, mirrored'.answer, reply, reply']
  · have finish := mirrored'.2.finish
    rw [left, passed] at finish
    omega

theorem reading_is_local (given : List Token) :
    (∀ place ≤ firstEnd (withEnd given), ∀ step : Step, ∃ answer stop,
      place ≤ stop ∧ stop ≤ firstEnd (withEnd given) ∧
      step.read (Input.atPlace (withEnd given) place) =
        (answer, Input.atPlace (withEnd given) stop) ∧
      ∀ (given' : List Token) (place' : Nat),
        (∀ index ≤ stop - place,
          (withEnd given')[place' + index]? = (withEnd given)[place + index]?) →
        step.read (Input.atPlace (withEnd given') place') =
          (answer, Input.atPlace (withEnd given') (place' + (stop - place)))) ∧
    (∀ cursor : Cursor, cursor.tokens.toList = withEnd given →
      cursor.current ≤ firstEnd (withEnd given) → ∀ (step : Step) (cursor' : Cursor),
        (∀ index ≤ (step.read cursor).2.current - cursor.current,
          cursor'.tokens[cursor'.current + index]? = cursor.tokens[cursor.current + index]?) →
        (step.read cursor').1 = (step.read cursor).1 ∧
          (step.read cursor').2.current =
            cursor'.current + ((step.read cursor).2.current - cursor.current)) ∧
    ∀ steps, ∃ stop ≤ firstEnd (withEnd given),
      (Input.ofTokens given).after steps = Input.atPlace (withEnd given) stop ∧
      ((Cursor.ofTokens given).after steps).current = stop ∧
      (∀ later, (Input.ofTokens given).run (steps ++ later) =
        (Input.ofTokens given).run steps ++
          (Input.ofTokens ((withEnd given).drop stop)).run later) ∧
      ∀ later, (Cursor.ofTokens given).course (steps ++ later) =
        (Cursor.ofTokens given).course steps ++
          ((Cursor.ofTokens ((withEnd given).drop stop)).course later).map
            (Prod.map id (· + stop)) := by
  obtain ⟨front, ending, behind, first⟩ := with_end_first_end given
  rw [first.index]
  refine ⟨?_, fun cursor same bound => first.move_again same bound, ?_⟩
  · intro place bound step
    obtain ⟨answer, stop, forward, within, reply, again⟩ := first.read_again bound step
    exact ⟨answer, stop, forward, within, reply,
      fun given' place' same => (again (withEnd given') place' same).1⟩
  · intro steps
    obtain ⟨stop, within, left⟩ := first.after (Nat.zero_le _) steps
    rw [Input.at_start] at left
    obtain ⟨left', moves⟩ := (Cursor.ofTokens given).after_mirrored steps
    rw [Cursor.of_tokens_input, left] at left'
    have place : ((Cursor.ofTokens given).after steps).current = stop :=
      first.current_eq rfl (Nat.zero_le _) moves within left'.symm
    refine ⟨stop, within, left, place, ?_, ?_⟩
    · intro later
      have onward : (Input.ofTokens given).run (steps ++ later) =
          (Input.ofTokens given).run steps ++ ((Input.ofTokens given).after steps).run later :=
        TokenStream.run_append ..
      rw [onward, left, Input.atPlace]
    · intro later
      have fresh : (Cursor.ofTokens ((withEnd given).drop stop)).input =
          Input.atPlace (withEnd given) stop := Cursor.of_tokens_input _
      have shifted : ((Cursor.ofTokens given).after steps).current =
          (Cursor.ofTokens ((withEnd given).drop stop)).current + stop :=
        place.trans (Nat.zero_add stop).symm
      have onward : (Cursor.ofTokens given).course (steps ++ later) =
          (Cursor.ofTokens given).course steps ++
            ((Cursor.ofTokens given).after steps).course later := by
        rw [Cursor.course, Cursor.run, TokenStream.run_append, List.map_append]
        rfl
      rw [onward, Cursor.course_shift (left'.symm.trans fresh.symm) shifted]

def useTokens : List Token :=
  ⟨.keyword .use, "use", ⟨1, 1, 0, none⟩⟩ ::
    (rangeTokens.take 2 ++ [⟨.punctuation .semicolon, ";", ⟨1, 8, 7, none⟩⟩])

/-- The name in front of a `..` is read behind `use` as it is read at the start of a range, and the
cursor moves by one token here as there. -/
theorem name_is_read_elsewhere :
    (∀ index ≤ 1, (withEnd useTokens)[1 + index]? = (withEnd rangeTokens)[0 + index]?) ∧
    (Step.tree .qualifiedIdentifier).read (Input.atPlace (withEnd useTokens) 1) =
      (.ok (.qualifiedIdentifier ⟨[⟨"a", ⟨1, 1, 0, none⟩⟩]⟩),
        Input.atPlace (withEnd useTokens) 2) ∧
    (Cursor.ofTokens useTokens).advance.current = 1 ∧
    (Cursor.ofTokens useTokens).advance.course [.tree .qualifiedIdentifier] =
      [(.ok (.qualifiedIdentifier ⟨[⟨"a", ⟨1, 1, 0, none⟩⟩]⟩), 2)] := by
  have same : ∀ index ≤ 1,
      (withEnd useTokens)[1 + index]? = (withEnd rangeTokens)[0 + index]? := by decide
  have start : 0 ≤ firstEnd (withEnd rangeTokens) := Nat.zero_le _
  obtain ⟨answer, stop, -, within, reply, again⟩ :=
    (reading_is_local rangeTokens).1 0 start (.tree .qualifiedIdentifier)
  have reply' : (Step.tree .qualifiedIdentifier).read (Input.atPlace (withEnd rangeTokens) 0) =
      (.ok (.qualifiedIdentifier ⟨[⟨"a", ⟨1, 1, 0, none⟩⟩]⟩),
        Input.atPlace (withEnd rangeTokens) 1) := rfl
  obtain ⟨rfl, left⟩ := Prod.mk.inj (reply'.symm.trans reply)
  obtain ⟨front, ending, behind, first⟩ := with_end_first_end rangeTokens
  obtain rfl : 1 = stop := first.place_unique (by decide) within left
  have window : ∀ index ≤ 1, (Cursor.ofTokens useTokens).advance.tokens[1 + index]? =
      (Cursor.ofTokens rangeTokens).tokens[0 + index]? := by decide
  obtain ⟨answers, stops⟩ := (reading_is_local rangeTokens).2.1 (Cursor.ofTokens rangeTokens) rfl
    start (.tree .qualifiedIdentifier) (Cursor.ofTokens useTokens).advance window
  exact ⟨same, again useTokens 1 same, rfl,
    congrArg₂ (fun answer stop => [(answer, stop)]) answers stops⟩

end Sierra
