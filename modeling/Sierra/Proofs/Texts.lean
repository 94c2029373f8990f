import Sierra.Proofs.Grammar.Mirrors
import Sierra.Proofs.Token.Resuming
import Sierra.Source

/-!
# What texts are read as

A text is read by way of its tokens. Whatever tree it is read as is derived from all of them, and a
file is just a tree of the rule for files.
-/

namespace Sierra

set_option autoImplicit false

variable {text : String} {file : Option String}

theorem SourceFile.of_text_eq_read (text : String) (file : Option String) :
    SourceFile.ofText text file =
      (do let tokens ← tokenize text file; (SourceFile.read (Input.ofTokens tokens)).1) := by
  unfold ofText
  cases tokenize text file with
  | error error => rfl
  | ok tokens => exact SourceFile.mirrored.answer_eq tokens

namespace Node

theorem of_text_eq_read {rule : Rule} {tokens : List Token}
    (reply : tokenize text file = .ok tokens) :
    Node.ofText rule text file = (rule.readWhole (Input.ofTokens tokens)).1 := by
  rw [ofText, reply]
  exact rule.whole_mirrored.answer_eq tokens

theorem of_text_eq {tokens : List Token} {finish : Location} (rule : Rule)
    (reply : tokenize text file = .ok (tokens ++ [Token.endOfInput finish]))
    (inside : ∀ token ∈ tokens, token.kind ≠ .endOfInput) :
    Node.ofText rule text file = (rule.readWhole (Input.mk tokens finish)).1 := by
  rw [of_text_eq_read reply, Input.of_closed inside]

theorem tiles_of_text {rule : Rule} {node : Node} (whole : ofText rule text file = .ok node) :
    ∃ tokens finish, tokenize text file = .ok (tokens ++ [.endOfInput finish]) ∧
      Tiles (Location.start file) text.toList tokens finish ∧ rule.phrase tokens node := by
  cases reply : tokenize text file with
  | error error => simp [ofText, reply, bind, Except.bind] at whole
  | ok all =>
      obtain ⟨tokens, finish, tiles, rfl⟩ := tiles_of_tokenize reply
      refine ⟨tokens, finish, rfl, tiles, ?_⟩
      rw [of_text_eq rule reply tiles.kind_ne_end] at whole
      obtain ⟨used, run, ended⟩ := rule.read_whole_run ⟨tokens, finish⟩ tiles.kind_ne_end
      have everything : tokens = used := by simpa [ended node whole] using run.tokens
      exact everything ▸ (run.accepted node whole node).mpr rfl

/-- Reading units only ends where the input does, so nothing is left behind a file. -/
theorem of_text_source_file (text : String) (file : Option String) :
    Node.ofText .sourceFile text file = Node.sourceFile <$> SourceFile.ofText text file := by
  have whole : ∀ input : Input, (Rule.sourceFile.readWhole input).1 =
      Node.sourceFile <$> (SourceFile.read input).1 := by
    intro input
    cases reply : SourceFile.read input with
    | mk answer rest =>
        cases answer with
        | error error =>
            have failed : Rule.sourceFile.readWhole input = (.error error, rest) :=
              Parser.bind_of_error (Parser.bind_of_error reply)
            rw [failed]
            rfl
        | ok tree =>
            have behind : Rule.sourceFile.readWhole input = _ :=
              Parser.bind_of_ok (Parser.bind_of_ok reply)
            rw [behind, Parser.next_bind, if_pos (next_ended (SourceFile.read_ends reply))]
            rfl
  rw [SourceFile.of_text_eq_read]
  cases reply : tokenize text file with
  | error error =>
      rw [ofText, reply]
      rfl
  | ok tokens =>
      rw [of_text_eq_read reply]
      exact whole _

end Node

theorem SourceFile.tiles_of_text {tree : SourceFile}
    (reads : SourceFile.ofText text file = .ok tree) : ∃ tokens finish,
      Tiles (Location.start file) text.toList tokens finish ∧ SourceFile.phrase tokens tree := by
  have node : Node.ofText .sourceFile text file = .ok (.sourceFile tree) := by
    rw [Node.of_text_source_file, reads]
    rfl
  obtain ⟨tokens, finish, -, tiles, other, derived, same⟩ := Node.tiles_of_text node
  obtain rfl := Node.sourceFile.inj same
  exact ⟨tokens, finish, tiles, derived⟩

end Sierra
