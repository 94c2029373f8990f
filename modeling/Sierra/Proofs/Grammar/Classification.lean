import Sierra.Proofs.Grammar.Exactness

/-!
# What an error is

The fault of an error is told by the tokens that could have come next in the rule, by the token in
front of the error, and by the token found. Where a whole tree is tried, nothing surrounds it, so
what could have come next is exactly what the language of the rule says.
-/

namespace Sierra

set_option autoImplicit false

section Fits

variable {fault : Fault} {could : Set Token.Kind} {before : Option Token.Kind} {found : Token.Kind}

theorem Fault.Fits.cases (fits : fault.Fits could before found) :
    ((∃ message, fault = .invalidParameter message) ↔ Deforms could before found) ∧
    ((∃ message rule, fault = .incomplete message rule) ↔
      ¬Deforms could before found ∧ Unclosed could before found) ∧
    ((∃ message rule, fault = .misplaced message rule) ↔
      ¬Deforms could before found ∧ ¬Unclosed could before found) ∧
    ∀ character, fault ≠ .strayCharacter character := by
  cases fault with
  | strayCharacter character => exact fits.elim
  | misplaced message rule =>
      obtain ⟨formed, closed⟩ : ¬Deforms could before found ∧ ¬Unclosed could before found := fits
      simp [formed, closed]
  | incomplete message rule =>
      obtain ⟨formed, unclosed⟩ : ¬Deforms could before found ∧ Unclosed could before found := fits
      simp [formed, unclosed]
  | invalidParameter message =>
      have deforms : Deforms could before found := fits
      simp [deforms]

/-- At the end of the input only a missing token is a fault. -/
theorem Fault.Fits.incomplete_at_end (fits : fault.Fits could before .endOfInput) :
    ∃ message rule, fault = .incomplete message rule :=
  fits.cases.2.1.mpr ⟨by simp [Deforms], .inl rfl⟩

end Fits

/-- A token behind a whole tree is misplaced: nothing that could go on there closes anything or
makes a parameter. -/
theorem Rule.read_whole_fits (rule : Rule) {input rest : Input} {error : Error}
    (failed : rule.readWhole input = (.error error, rest)) :
    ∃ used, input.tokens = used ++ rest.tokens ∧
      error.fault.Fits (nexts rule.language (kinds used)) (kinds used).getLast? rest.next.kind := by
  obtain ⟨outline, reading, quiet⟩ := rule.reading
  rcases Parser.of_bind_error failed with inner | ⟨node, left, inner, behind⟩
  · obtain ⟨used, tokens, blamed⟩ := reading.blames input error rest inner
    have fits := blamed (nexts rule.language (kinds used)) none
      (fun _ => rule.sentences_eq ▸ Widens.refl _) (by simp)
    exact ⟨used, tokens, by simpa using fits⟩
  · rw [Parser.next_bind] at behind
    split at behind
    case isTrue => exact absurd behind Parser.ok_ne_error
    case isFalse other =>
      obtain ⟨rfl, rfl⟩ := Parser.error_inj behind
      obtain ⟨used, run⟩ := reading.reads input
      rw [inner] at run
      have sentence : kinds used ∈ rule.phrase.sentences :=
        Phrase.kinds_mem_sentences ((run.accepted node rfl node).mpr rfl)
      refine ⟨used, run.tokens, ?_⟩
      rw [← rule.sentences_eq]
      exact misplaced_fits quiet.1 (fun _ => quiet.2)
        (fun kind goesOn => reading.outlined.next _ kind sentence goesOn) (Widens.refl _) other
        (fun last => absurd last (reading.settled _ sentence))

theorem Input.next_found {tokens used : List Token} {ending : Token} {rest : Input}
    (split : tokens = used ++ rest.tokens) (finish : rest.finish = ending.location)
    (ended : ending.kind = .endOfInput) : ∃ found, (tokens ++ [ending])[used.length]? = some found ∧
      found.kind = rest.next.kind ∧ found.location = rest.next.location := by
  cases left : rest.tokens with
  | nil =>
      have next : rest.next = Token.endOfInput ending.location := by
        simp [Input.next, left, finish]
      exact ⟨ending, by simp [split, left], by simp [next, Token.endOfInput, ended],
        by simp [next, Token.endOfInput]⟩
  | cons token after =>
      have next : rest.next = token := next_of_tokens left
      exact ⟨token, by simp [split, left], by rw [next], by rw [next]⟩

theorem faults_are_classified (rule : Rule) (tokens : List Token) (ending : Token)
    (inside : ∀ token ∈ tokens, token.kind ≠ .endOfInput) (ended : ending.kind = .endOfInput)
    (error : Error) (rest : Input)
    (failed : rule.readWhole (Input.ofTokens (tokens ++ [ending])) = (.error error, rest)) :
    ∃ index found, index ≤ tokens.length ∧ rest.tokens = tokens.drop index ∧
      (tokens ++ [ending])[index]? = some found ∧ error.location = found.location ∧
      let could := nexts rule.language (kinds (tokens.take index))
      let before := (kinds (tokens.take index)).getLast?
      ((∃ message, error.fault = .invalidParameter message) ↔ Deforms could before found.kind) ∧
      ((∃ message place, error.fault = .incomplete message place) ↔
        ¬Deforms could before found.kind ∧ Unclosed could before found.kind) ∧
      ((∃ message place, error.fault = .misplaced message place) ↔
        ¬Deforms could before found.kind ∧ ¬Unclosed could before found.kind) ∧
      ∀ character, error.fault ≠ .strayCharacter character := by
  rw [Input.of_finished inside ended] at failed
  obtain ⟨used, run, -⟩ := rule.read_whole_run ⟨tokens, ending.location⟩ inside
  rw [failed] at run
  have split : tokens = used ++ rest.tokens := run.tokens
  obtain ⟨used', split', fits⟩ := rule.read_whole_fits failed
  obtain rfl : used = used' := List.append_cancel_right (split.symm.trans split')
  obtain ⟨found, place, kind, location⟩ := Input.next_found split run.finish ended
  have taken : tokens.take used.length = used := by simp [split]
  refine ⟨used.length, found, by simp [split], by simp [split], place, ?_, ?_⟩
  · exact (run.rejected error rfl).1.trans location.symm
  · rw [taken, kind]
    exact fits.cases

/-- In `a : self` the colon makes a parameter with a type, since only `self` could come behind the
name. -/
theorem colon_behind_name_is_told :
    (∃ message, (Rule.parameter.readWhole (Input.ofTokens
      [⟨.identifier, "a", ⟨1, 1, 0, none⟩⟩, ⟨.punctuation .colon, ":", ⟨1, 3, 2, none⟩⟩,
        ⟨.keyword .self, "self", ⟨1, 5, 4, none⟩⟩, .endOfInput ⟨1, 9, 8, none⟩])).1 =
          .error ⟨.invalidParameter message, ⟨1, 3, 2, none⟩⟩) ∧
    nexts Rule.parameter.language [.identifier] = {.keyword .self} := by
  let tokens : List Token := [⟨.identifier, "a", ⟨1, 1, 0, none⟩⟩,
    ⟨.punctuation .colon, ":", ⟨1, 3, 2, none⟩⟩, ⟨.keyword .self, "self", ⟨1, 5, 4, none⟩⟩]
  have inside : ∀ token ∈ tokens, token.kind ≠ .endOfInput := by decide
  refine ⟨⟨_, rfl⟩, ?_⟩
  obtain ⟨index, found, bounded, left, place, -, deforms, -⟩ :=
    faults_are_classified .parameter tokens (.endOfInput ⟨1, 9, 8, none⟩) inside rfl _ _ rfl
  have index_eq : index = 1 := by
    have most : index ≤ 3 := bounded
    have lengths : 2 = 3 - index := (congrArg List.length left).trans List.length_drop
    omega
  subst index_eq
  obtain rfl : tokens[1] = found := Option.some_inj.mp place
  rcases deforms.mp ⟨_, rfl⟩ with ⟨alone, -⟩ | ⟨-, colon, -⟩ | ⟨self, -⟩
  · exact alone
  · exact absurd colon (by decide)
  · exact absurd self (by decide)

end Sierra
