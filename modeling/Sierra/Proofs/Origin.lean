import Sierra.Proofs.Places
import Sierra.Proofs.Text.Lines
import Sierra.Proofs.Texts
import Sierra.Proofs.Token.Positions

/-!
# Where errors come from

An error comes up in a call that reads tokens or in a step that reads a tree from such tokens. In
both cases its location is that of a character of the text or the end of the text: of the stray
character, or of the first character of the token at hand. So its line is a line of the text, and
its column is where the line goes on with what is wrong.
-/

namespace Sierra

set_option autoImplicit false

open Sierra.Text (IsLine lastLine)

/-- An error that comes up in a text, with the token at hand if it comes from reading a tree. -/
inductive Error.Arises (text : String) (file : Option String) (error : Error) :
    Option Token → Prop where
  | reading {times : Nat} :
      .error error ∈ (Lexer.ofText text file).tokenizeTimes times → Arises text file error none
  | parsing {times : Nat} {tokens : List Token} {steps : List Step} {rest : Input} :
      .ok tokens ∈ (Lexer.ofText text file).tokenizeTimes times →
      (.error error, rest) ∈ (Input.ofTokens tokens).run steps →
      Arises text file error (some rest.next)

/-- What an error is about begins a text: a stray character, the token at hand, or the end. -/
inductive Error.Offends (error : Error) : Option Token → List Char → Prop where
  | character {c : Char} {rest : List Char} :
      error.fault = .strayCharacter c → Offends error none (c :: rest)
  | token {token : Token} {c : Char} {tail rest : List Char} :
      token.kind ≠ .endOfInput → token.lexeme.toList = c :: tail →
      Offends error (some token) (c :: rest)
  | ending {token : Token} : token.kind = .endOfInput → Offends error (some token) []

/-- Line feeds count the lines, and the characters behind the last of them the columns. -/
theorem Location.after_start (file : Option String) (front : List Char) :
    ((Location.start file).after front).line = front.count '\n' + 1 ∧
      ((Location.start file).after front).column = (lastLine front).length + 1 := by
  have describes := Location.describes_after file front
  refine ⟨?_, ?_⟩
  · rw [describes.line, String.toList_ofList, Nat.add_comm]
  · rw [describes.column, String.toList_ofList, lastLine, List.length_reverse, Nat.add_comm]

section Calls

variable {text : String} {file : Option String} {times : Nat}

theorem error_of_call {error : Error}
    (given : .error error ∈ (Lexer.ofText text file).tokenizeTimes times) :
    error ∈ strays (Location.start file) text.toList := by
  obtain ⟨parts, parted⟩ := exists_parted (Location.start file) text.toList
  have calls : (Lexer.ofText text file).tokenizeTimes times = _ := parted.tokenize_times [] times
  rw [calls] at given
  rcases answers_cases given with ⟨other, member, same⟩ | absurdity | absurdity
  · exact Except.error.inj same ▸ member
  · simp at absurdity
  · simp at absurdity

theorem tokens_of_call {tokens : List Token}
    (given : .ok tokens ∈ (Lexer.ofText text file).tokenizeTimes times) : ∃ front,
      tokens = front ++ [.endOfInput ((Location.start file).after text.toList)] ∧
      ∀ token ∈ front, ∃ before back,
        Tiles.Stands (Location.start file) text.toList token before back := by
  obtain ⟨parts, parted⟩ := exists_parted (Location.start file) text.toList
  have calls : (Lexer.ofText text file).tokenizeTimes times = _ := parted.tokenize_times [] times
  rw [calls] at given
  rcases answers_cases given with ⟨other, -, absurdity⟩ | same | same
  · simp at absurdity
  · exact ⟨parts, Except.ok.inj same, parted.stands⟩
  · exact ⟨[], Except.ok.inj same, by simp⟩

theorem input_of_call {tokens : List Token}
    (given : .ok tokens ∈ (Lexer.ofText text file).tokenizeTimes times) : ∃ front,
      Input.ofTokens tokens = ⟨front, (Location.start file).after text.toList⟩ ∧
      (∀ token ∈ front, ∃ before back,
        Tiles.Stands (Location.start file) text.toList token before back) ∧
      ∀ token ∈ front, token.kind ≠ .endOfInput := by
  obtain ⟨front, rfl, stand⟩ := tokens_of_call given
  have inside : ∀ token ∈ front, token.kind ≠ .endOfInput := by
    intro token member
    obtain ⟨before, back, stands⟩ := stand token member
    exact stands.kind_ne_end
  exact ⟨front, Input.of_closed inside _, stand, inside⟩

theorem arises_of_reading {error : Error} (reply : tokenize text file = .error error) :
    error.Arises text file none := by
  have given : .error error ∈ (Lexer.ofText text file).tokenizeTimes 1 := by
    simp [tokenize_eq, reply]
  exact .reading given

theorem arises_of_step {error : Error} {tokens : List Token}
    (reply : tokenize text file = .ok tokens) (step : Step)
    (failed : (step.read (Input.ofTokens tokens)).1 = .error error) :
    ∃ found, error.Arises text file found := by
  have given : .ok tokens ∈ (Lexer.ofText text file).tokenizeTimes 1 := by
    simp [tokenize_eq, reply]
  have first : (.error error, (step.read (Input.ofTokens tokens)).2) ∈
      (Input.ofTokens tokens).run [step] := by
    rw [← failed]
    exact List.mem_singleton_self _
  exact ⟨_, .parsing given first⟩

theorem arises_of_tree {rule : Rule} {error : Error}
    (failed : Node.ofText rule text file = .error error) :
    ∃ found, error.Arises text file found := by
  cases reply : tokenize text file with
  | error other =>
      obtain rfl : other = error := by
        rw [Node.ofText, reply] at failed
        exact Except.error.inj failed
      exact ⟨none, arises_of_reading reply⟩
  | ok tokens =>
      rw [Node.of_text_eq_read reply] at failed
      exact arises_of_step reply (.whole rule) failed

end Calls

/-- A step that fails stops at the token that it blames, and the next step begins there. -/
theorem Input.run_blames {input : Input} (inside : ∀ token ∈ input.tokens, token.kind ≠ .endOfInput)
    (steps : List Step) : ∀ reply ∈ input.run steps, ∃ used, input.Behind used reply.2 ∧
      ∀ error, reply.1 = .error error → error.location = reply.2.next.location := by
  induction steps generalizing input with
  | nil => simp [TokenStream.run]
  | cons step steps induction =>
      obtain ⟨used, run, -⟩ := step.read_run input inside
      have first : input.Behind used (step.read input).2 := ⟨run.tokens, run.finish⟩
      intro reply member
      rcases List.mem_cons.mp member with rfl | member
      · exact ⟨used, first, fun error failed => (run.rejected error failed).1⟩
      · have inside' : ∀ token ∈ (step.read input).2.tokens, token.kind ≠ .endOfInput := by
          intro token member
          exact inside token (by simp [first.tokens, member])
        obtain ⟨between, later, blames⟩ := induction inside' reply member
        exact ⟨used ++ between, first.trans later, blames⟩

/-- Behind what was read the next token is one of those in front of the end, or the end. -/
theorem Input.next_cases {input rest : Input} {used : List Token}
    (behind : input.Behind used rest) :
    rest.next ∈ input.tokens ∨ rest.next = .endOfInput input.finish := by
  cases left : rest.tokens with
  | nil =>
      right
      rw [Input.next, left]
      exact congrArg Token.endOfInput behind.finish
  | cons token after =>
      left
      rw [next_of_tokens left, behind.tokens, left]
      exact List.mem_append_right _ List.mem_cons_self

/-- The text goes on with what the error is about, and not with a blank. -/
def Error.Meets (error : Error) (found : Option Token) (back : List Char) : Prop :=
  error.Offends found back ∧ ∀ c rest, back = c :: rest → ¬Blank c

theorem Error.Offends.again {error : Error} {found : Option Token} {c : Char}
    {rest : List Char} (offends : error.Offends found (c :: rest)) (tail : List Char) :
    error.Offends found (c :: tail) := by
  cases offends with
  | character fault => exact .character fault
  | token inner lexeme => exact .token inner lexeme

namespace Error.Meets

variable {error : Error}

theorem stray {c : Char} (outside : ¬Admitted c) (fault : error.fault = .strayCharacter c)
    (back : List Char) : error.Meets none (c :: back) := by
  refine ⟨.character fault, ?_⟩
  intro d rest same blank
  exact outside ((List.cons.inj same).1 ▸ .inl blank)

theorem token {here : Location} {text front back : List Char} {token : Token}
    (stands : Tiles.Stands here text token front back) :
    error.Meets (some token) (token.lexeme.toList ++ back) := by
  have spelled := is_lexeme_of_spells stands.spells
  obtain ⟨c, tail, lexeme, -⟩ := lead_of_lexeme spelled
  rw [lexeme] at spelled ⊢
  refine ⟨.token stands.kind_ne_end lexeme, ?_⟩
  intro d rest same blank
  exact not_blank_of_lexeme spelled ((List.cons.inj same).1 ▸ blank)

theorem ending (here : Location) : error.Meets (some (.endOfInput here)) [] :=
  ⟨.ending rfl, by simp⟩

end Error.Meets

namespace Error.Arises

variable {text : String} {file : Option String} {error : Error} {found : Option Token}

theorem stands (arises : error.Arises text file found) : ∃ front back,
    text.toList = front ++ back ∧ error.location = (Location.start file).after front ∧
    error.Meets found back := by
  cases arises with
  | reading given =>
      obtain ⟨front, c, back, split, outside, rfl⟩ := strays_stand _ _ _ (error_of_call given)
      exact ⟨front, c :: back, split, rfl, .stray outside rfl back⟩
  | @parsing _ tokens steps rest given failed =>
      obtain ⟨front, same, stand, inside⟩ := input_of_call given
      rw [same] at failed
      obtain ⟨used, behind, blames⟩ := Input.run_blames inside steps _ failed
      rw [blames error rfl]
      rcases Input.next_cases behind with member | ended
      · obtain ⟨before, back, stands⟩ := stand _ member
        exact ⟨before, _, stands.split, stands.location, .token stands⟩
      · rw [ended]
        exact ⟨text.toList, [], by simp, rfl, .ending _⟩

/-- The line of an error goes on with what is wrong from the error's column on. -/
theorem on_line (arises : error.Arises text file found) : ∃ line,
    IsLine text.toList error.location.line line ∧
    error.Offends found (line.drop (error.location.column - 1)) ∧
    ∀ token, found = some token → token.kind = .endOfInput →
      error.location.column = line.length + 1 := by
  obtain ⟨front, back, split, location, offends, lead⟩ := arises.stands
  obtain ⟨number, column⟩ := Location.after_start file front
  rw [split, location, number, column, Nat.add_sub_cancel]
  cases back with
  | nil =>
      refine ⟨lastLine front, ?_, ?_, fun _ _ _ => rfl⟩
      · simpa using Text.last_is_line front
      · simpa using offends
  | cons c rest =>
      have other : ∀ d, Blank d → c ≠ d := fun d blank same => lead c rest rfl (same ▸ blank)
      obtain ⟨tail, stands⟩ :=
        Text.is_line_through front (other '\n' (by decide)) (other '\r' (by decide)) rest
      refine ⟨lastLine front ++ c :: tail, stands, ?_, ?_⟩
      · rw [List.drop_left]
        exact offends.again tail
      · rintro token rfl ended
        cases offends with
        | token inner => exact absurd ended inner

end Error.Arises

end Sierra
