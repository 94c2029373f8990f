import Mathlib.Data.List.TakeWhile
import Sierra.Proofs.Grammar.Units
import Sierra.Proofs.Grammar.Languages
import Sierra.Proofs.Grammar.Composition

/-!
# Whole trees

A rule is tried on all of a list of tokens. It answers a tree exactly when the tokens are a sentence
of the rule, and the tree is then the only one that they derive. Otherwise it stops at the first
token with which no sentence of the rule could go on, or at the end of tokens that are not a
sentence yet.
-/

namespace Sierra

set_option autoImplicit false

variable {rule : Rule} {input : Input} {used : List Token}

namespace Rule

/-- A tree that is all of the input is still a longest viable prefix, since what was left behind a
shorter one cannot go on. -/
theorem read_whole_run (rule : Rule) (input : Input)
    (inside : ∀ token ∈ input.tokens, token.kind ≠ .endOfInput) :
    ∃ used, Run rule.phrase (· = none) input used (rule.readWhole input) ∧
      ∀ node, (rule.readWhole input).1 = .ok node → (rule.readWhole input).2.tokens = [] := by
  obtain ⟨outline, reading, -⟩ := rule.reading
  obtain ⟨used, run⟩ := reading.reads input
  refine ⟨used, ?_⟩
  cases reply : rule.read input with
  | mk answer rest =>
      rw [reply] at run
      cases answer with
      | error error =>
          have failed : rule.readWhole input = (.error error, rest) := Parser.bind_of_error reply
          rw [failed]
          exact ⟨run, by simp⟩
      | ok node =>
          have behind : rule.readWhole input = _ := Parser.bind_of_ok reply
          rw [Parser.next_bind] at behind
          by_cases ended : rest.next.kind = .endOfInput
          · rw [if_pos ended] at behind
            rw [behind]
            refine ⟨run, ?_⟩
            intro _ _
            cases tokens : rest.tokens with
            | nil => exact tokens
            | cons token after =>
                have member : token ∈ input.tokens := by simp [run.tokens, tokens]
                exact absurd (next_of_tokens tokens ▸ ended) (inside token member)
          · rw [if_neg ended] at behind
            have failed : rule.readWhole input =
                (.error ((Refusal.trailing rule).error rest.next), rest) := behind
            rw [failed]
            refine ⟨⟨run.tokens, run.finish, run.viable, run.maximal, by simp, ?_⟩, by simp⟩
            intro error same
            obtain rfl : (Refusal.trailing rule).error rest.next = error := by simpa using same
            refine ⟨rfl, ?_⟩
            intro _ none
            have tokens : rest.tokens = [] := by simpa [Input.ahead] using none
            exact ended (by simp [Input.next, tokens, Token.endOfInput])

/-- A sentence is taken to its end: nothing of it can be left behind a longest viable prefix. -/
theorem run_of_sentence {reply : Except Error Node × Input}
    (run : Run rule.phrase (· = none) input used reply)
    (sentence : kinds input.tokens ∈ rule.language) :
    used = input.tokens ∧ ∃ node, reply.1 = .ok node := by
  rw [← rule.sentences_eq, run.tokens, kinds_append] at sentence
  have ended : reply.2.tokens = [] := by
    cases tokens : reply.2.tokens with
    | nil => rfl
    | cons token after =>
        rw [tokens, kinds_cons] at sentence
        have goesOn : Viable rule.phrase.sentences (kinds used ++ [token.kind]) :=
          ⟨kinds after, by simpa using sentence⟩
        exact absurd goesOn (run.maximal token.kind (head_ahead tokens))
  refine ⟨by simp [run.tokens, ended], ?_⟩
  cases answer : reply.1 with
  | ok node => exact ⟨node, rfl⟩
  | error error =>
      have ahead : reply.2.ahead = none := by simp [Input.ahead, ended]
      rw [ended] at sentence
      exact absurd ahead ((run.rejected error answer).2 (by simpa using sentence))

end Rule

/-- What stands behind the first end of input does not count. -/
theorem Input.of_finished {tokens behind : List Token} {ending : Token}
    (inside : ∀ token ∈ tokens, token.kind ≠ .endOfInput) (ended : ending.kind = .endOfInput) :
    Input.ofTokens (tokens ++ ending :: behind) = ⟨tokens, ending.location⟩ := by
  have front : (tokens ++ ending :: behind).takeWhile (·.kind ≠ .endOfInput) = tokens := by
    rw [List.takeWhile_append_of_pos (by simpa using inside)]
    simp [ended]
  have found : (tokens ++ ending :: behind).find? (·.kind = .endOfInput) = some ending := by
    have none : tokens.find? (·.kind = .endOfInput) = none := by simpa using inside
    rw [List.find?_append, none]
    simp [ended]
  rw [Input.ofTokens, front, found]

theorem Input.of_closed {tokens : List Token} (inside : ∀ token ∈ tokens, token.kind ≠ .endOfInput)
    (finish : Location) : Input.ofTokens (tokens ++ [Token.endOfInput finish]) = ⟨tokens, finish⟩ :=
  of_finished inside rfl

theorem Input.of_unfinished {tokens : List Token} {final : Token}
    (inside : ∀ token ∈ tokens, token.kind ≠ .endOfInput) (last : tokens.getLast? = some final) :
    Input.ofTokens tokens = ⟨tokens, final.location⟩ := by
  have none : tokens.find? (·.kind = .endOfInput) = none := by simpa using inside
  have all : tokens.takeWhile (·.kind ≠ .endOfInput) = tokens :=
    List.takeWhile_eq_self_iff.mpr (by simpa using inside)
  rw [ofTokens, none, last, all]

theorem reading_whole_is_exact (rule : Rule) (tokens : List Token) (ending : Token)
    (inside : ∀ token ∈ tokens, token.kind ≠ .endOfInput) (ended : ending.kind = .endOfInput) :
    (∀ node, (rule.readWhole (Input.ofTokens (tokens ++ [ending]))).1 = .ok node ↔
      rule.phrase tokens node) ∧
    ((∃ node, (rule.readWhole (Input.ofTokens (tokens ++ [ending]))).1 = .ok node) ↔
      kinds tokens ∈ rule.language) ∧
    ∀ node, rule.phrase tokens node → node.rule = rule ∧ node.flatten = leaves tokens ∧
      ∀ other, rule.phrase tokens other → other = node := by
  rw [Input.of_finished inside ended]
  obtain ⟨used, run, whole⟩ := rule.read_whole_run ⟨tokens, ending.location⟩ inside
  have sentence : ∀ node, rule.phrase tokens node → kinds tokens ∈ rule.language :=
    fun node derived => rule.sentences_eq ▸ Phrase.kinds_mem_sentences derived
  have unique : ∀ node, (rule.readWhole (Input.mk tokens ending.location)).1 = .ok node →
      ∀ other, rule.phrase tokens other ↔ other = node := by
    intro node answer
    have all : tokens = used := by simpa [whole node answer] using run.tokens
    exact all ▸ run.accepted node answer
  have accepted : kinds tokens ∈ rule.language →
      ∃ node, (rule.readWhole (Input.mk tokens ending.location)).1 = .ok node :=
    fun member => (Rule.run_of_sentence run member).2
  refine ⟨?_, ?_, ?_⟩
  · intro node
    constructor
    · exact fun answer => (unique node answer node).mpr rfl
    · intro derived
      obtain ⟨other, answer⟩ := accepted (sentence node derived)
      rw [(unique other answer node).mp derived]
      exact answer
  · constructor
    · intro answered
      obtain ⟨node, answer⟩ := answered
      exact sentence node ((unique node answer node).mpr rfl)
    · exact accepted
  · intro node derived
    refine ⟨Rule.rule_of_phrase derived, rule.keeps tokens node derived, ?_⟩
    intro other derived'
    obtain ⟨only, answer⟩ := accepted (sentence node derived)
    rw [(unique only answer node).mp derived, (unique only answer other).mp derived']

def rangeTokens : List Token :=
  [⟨.identifier, "a", ⟨1, 1, 0, none⟩⟩, ⟨.punctuation .dotDot, "..", ⟨1, 2, 1, none⟩⟩,
    ⟨.number, "9", ⟨1, 4, 3, none⟩⟩, ⟨.punctuation .dotDot, "..", ⟨1, 5, 4, none⟩⟩,
    ⟨.identifier, "b", ⟨1, 7, 6, none⟩⟩]

theorem range_is_read_exactly :
    (∀ token ∈ rangeTokens, token.kind ≠ .endOfInput) ∧
    (Token.endOfInput ⟨1, 8, 7, none⟩).kind = .endOfInput ∧
    kinds rangeTokens ∈ Rule.expression.language ∧
    Rule.expression.phrase rangeTokens (.expression (.range
      (.range (.identifier ⟨"a", ⟨1, 1, 0, none⟩⟩) (.number "9" ⟨1, 4, 3, none⟩) ⟨1, 1, 0, none⟩)
      (.identifier ⟨"b", ⟨1, 7, 6, none⟩⟩) ⟨1, 1, 0, none⟩)) := by
  have inside : ∀ token ∈ rangeTokens, token.kind ≠ .endOfInput := by decide
  obtain ⟨reads, accepts, -⟩ := reading_whole_is_exact .expression rangeTokens
    (.endOfInput ⟨1, 8, 7, none⟩) inside rfl
  exact ⟨inside, rfl, accepts.mp ⟨_, rfl⟩, (reads _).mp rfl⟩

theorem failure_is_at_first_misfit (rule : Rule) (tokens : List Token) (ending : Token)
    (inside : ∀ token ∈ tokens, token.kind ≠ .endOfInput) (ended : ending.kind = .endOfInput)
    (error : Error) (rest : Input)
    (failed : rule.readWhole (Input.ofTokens (tokens ++ [ending])) = (.error error, rest)) :
    ∃ index, index ≤ tokens.length ∧ rest.tokens = tokens.drop index ∧
      (tokens ++ [ending])[index]?.map (·.location) = some error.location ∧
      (∃ sentence ∈ rule.language, kinds (tokens.take index) <+: sentence) ∧
      (index < tokens.length → ∀ sentence ∈ rule.language,
        ¬kinds (tokens.take (index + 1)) <+: sentence) ∧
      (index = tokens.length → kinds tokens ∉ rule.language) := by
  rw [Input.of_finished inside ended] at failed
  obtain ⟨used, run, -⟩ := rule.read_whole_run ⟨tokens, ending.location⟩ inside
  rw [failed] at run
  have split : tokens = used ++ rest.tokens := run.tokens
  have viable := run.viable
  have maximal := run.maximal
  obtain ⟨location, refused⟩ := run.rejected error rfl
  rw [rule.sentences_eq] at viable maximal refused
  refine ⟨used.length, by simp [split], by simp [split], ?_, ?_, ?_, ?_⟩
  · cases left : rest.tokens with
    | nil =>
        have finish : rest.finish = ending.location := run.finish
        simp [location, split, left, Input.next, Token.endOfInput, finish]
    | cons token after => simp [location, split, left, next_of_tokens left]
  · obtain ⟨back, sentence⟩ := viable
    exact ⟨_, sentence, by simp [split]⟩
  · intro short sentence member begins
    obtain ⟨token, after, left⟩ : ∃ token after, rest.tokens = token :: after := by
      apply List.exists_cons_of_ne_nil
      intro none
      simp [split, none] at short
    have taken : tokens.take (used.length + 1) = used ++ [token] := by
      simp [split, left, List.take_append]
    obtain ⟨back, rfl⟩ := begins
    rw [taken, kinds_append] at member
    exact maximal token.kind (head_ahead left) ⟨back, member⟩
  · intro whole member
    have none : rest.tokens = [] := by simpa [split] using whole
    rw [split, none, List.append_nil] at member
    exact refused member (by simp [Input.ahead, none])

/-- In `a..;` the semicolon is the misfit, since `a..` begins a statement. -/
theorem semicolon_is_first_misfit :
    (∃ sentence ∈ Rule.statement.language,
      [.identifier, .punctuation .dotDot] <+: sentence) ∧
    ∀ sentence ∈ Rule.statement.language,
      ¬[.identifier, .punctuation .dotDot, .punctuation .semicolon] <+: sentence := by
  let tokens : List Token := rangeTokens.take 2 ++ [⟨.punctuation .semicolon, ";", ⟨1, 4, 3, none⟩⟩]
  have inside : ∀ token ∈ tokens, token.kind ≠ .endOfInput := by decide
  obtain ⟨index, bounded, left, -, begins, misfit, -⟩ :=
    failure_is_at_first_misfit .statement tokens (.endOfInput ⟨1, 5, 4, none⟩) inside rfl _ _ rfl
  have place : index = 2 := by
    have most : index ≤ 3 := bounded
    have lengths : 1 = 3 - index := (congrArg List.length left).trans List.length_drop
    omega
  subst place
  exact ⟨begins, misfit (by decide)⟩

end Sierra
