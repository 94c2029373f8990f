import Sierra.Proofs.Grammar.Echoes
import Sierra.Proofs.Texts
import Sierra.Proofs.Token.Relocation
import Sierra.Proofs.Token.RoundTrip

/-!
# What layout and file names do

Nothing is decided by a location. Blanks, line feeds and the name of a file change the locations of
tokens; in a tree or an error these locations change in the same way, and nothing else does. Texts
with the same words are therefore read alike up to locations, whatever rule they are read by.
-/

namespace Sierra

set_option autoImplicit false

def Location.erase (_ : Location) : Location :=
  start none

/-- The reply of a step with all its locations moved, those of the input that is left included. -/
def relocateReply (move : Location → Location) (reply : Except Error Node × Input) :
    Except Error Node × Input :=
  (relocateAnswer move (Node.relocate move) reply.1, reply.2.relocate move)

variable {move : Location → Location} {tokens : List Token}

theorem Input.of_relocated (some : tokens ≠ []) :
    Input.ofTokens (tokens.map (Token.relocate move)) = (Input.ofTokens tokens).relocate move := by
  obtain ⟨final, last⟩ : ∃ final, tokens.getLast? = .some final :=
    ⟨tokens.getLast some, List.getLast?_eq_some_getLast some⟩
  have front : (tokens.map (Token.relocate move)).takeWhile (·.kind ≠ .endOfInput) =
      (tokens.takeWhile (·.kind ≠ .endOfInput)).map (Token.relocate move) :=
    List.takeWhile_map ..
  have found : (tokens.map (Token.relocate move)).find? (·.kind = .endOfInput) =
      (tokens.find? (·.kind = .endOfInput)).map (Token.relocate move) :=
    List.find?_map ..
  rw [ofTokens, ofTokens, front, found, List.getLast?_map, last]
  cases tokens.find? (·.kind = .endOfInput) with
  | none => rfl
  | some ending => rfl

theorem Input.run_relocate (input : Input) (steps : List Step) :
    (input.relocate move).run steps = (input.run steps).map (relocateReply move) := by
  induction steps generalizing input with
  | nil => rfl
  | cons step steps induction =>
      rw [run, TokenStream.run_cons, step.echoed.relocate, run, TokenStream.run_cons,
        List.map_cons, ← induction]
      rfl

section Echo

variable {α β : Type} {f : α → β} {parser : Parser Input α} {echo : Parser Input β}

theorem Parser.Echoed.of_relocated (echoed : parser.Echoed move f echo) (some : tokens ≠ []) :
    (echo (Input.ofTokens (tokens.map (Token.relocate move)))).1 =
      relocateAnswer move f (parser (Input.ofTokens tokens)).1 := by
  rw [Input.of_relocated some, echoed.relocate]

theorem Parser.Echoed.of_text (echoed : parser.Echoed move f echo) (rigid : Location.Rigid move)
    {file file' : Option String} (start : move (Location.start file) = Location.start file')
    (text : String) :
    (do let tokens ← tokenize text file'; (echo (Input.ofTokens tokens)).1) =
      relocateAnswer move f
        (do let tokens ← tokenize text file; (parser (Input.ofTokens tokens)).1) := by
  rw [tokenize_relocate rigid start]
  cases reply : tokenize text file with
  | error error => rfl
  | ok tokens =>
      obtain ⟨tiling, finish, -, rfl⟩ := tiles_of_tokenize reply
      exact echoed.of_relocated (List.append_ne_nil_of_right_ne_nil _ (List.cons_ne_nil _ _))

end Echo

theorem erased_of_spoken {tokens tokens' : List Token}
    (same : tokens.map Token.spoken = tokens'.map Token.spoken) :
    tokens.map (Token.relocate Location.erase) = tokens'.map (Token.relocate Location.erase) := by
  let silent : Token.Kind × String → Token := fun word => ⟨word.1, word.2, Location.start none⟩
  have split : ∀ tokens : List Token,
      tokens.map (Token.relocate Location.erase) = (tokens.map Token.spoken).map silent := by
    intro tokens
    rw [List.map_map]
    rfl
  rw [split, split, same]

theorem layout_moves_only_locations :
    (∀ (move : Location → Location) (tokens : List Token) (steps : List Step), tokens ≠ [] →
      (Input.ofTokens (tokens.map (Token.relocate move))).run steps =
        ((Input.ofTokens tokens).run steps).map (relocateReply move)) ∧
    (∀ text name, SourceFile.ofText text (some name) =
      relocateAnswer (Location.stamp name) (SourceFile.relocate (Location.stamp name))
        (SourceFile.ofText text none)) ∧
    ∀ text text' file file' tokens tokens', tokenize text file = .ok tokens →
      tokenize text' file' = .ok tokens' →
      tokens.map Token.spoken = tokens'.map Token.spoken → ∀ rule,
        relocateAnswer Location.erase (Node.relocate Location.erase) (Node.ofText rule text file) =
          relocateAnswer Location.erase (Node.relocate Location.erase)
            (Node.ofText rule text' file') := by
  refine ⟨?_, ?_, ?_⟩
  · intro move tokens steps some
    rw [Input.of_relocated some]
    exact Input.run_relocate _ steps
  · intro text name
    rw [SourceFile.of_text_eq_read, SourceFile.of_text_eq_read]
    exact SourceFile.echoed.of_text (Location.stamp_rigid name) rfl text
  · intro text text' file file' tokens tokens' reply reply' same rule
    obtain ⟨tiling, finish, -, rfl⟩ := tiles_of_tokenize reply
    obtain ⟨tiling', finish', -, rfl⟩ := tiles_of_tokenize reply'
    rw [Node.of_text_eq_read reply, Node.of_text_eq_read reply',
      ← rule.whole_echoed.of_relocated (by simp), ← rule.whole_echoed.of_relocated (by simp),
      erased_of_spoken same]

/-- Spreading a range over two lines of a file does not change what it is. -/
theorem spread_range_is_the_same :
    (Input.ofTokens (rangeTokens.map (Token.relocate (Location.stamp "f")))).run
        [.tree .qualifiedIdentifier, .file] =
      ((Input.ofTokens rangeTokens).run [.tree .qualifiedIdentifier, .file]).map
        (relocateReply (Location.stamp "f")) ∧
    relocateAnswer Location.erase (Node.relocate Location.erase)
        (Node.ofText .expression "a..b" none) =
      relocateAnswer Location.erase (Node.relocate Location.erase)
        (Node.ofText .expression " a\n.. b" (some "f")) := by
  have first : tokenize "a..b" none = .ok [⟨.identifier, "a", ⟨1, 1, 0, none⟩⟩,
      ⟨.punctuation .dotDot, "..", ⟨1, 2, 1, none⟩⟩, ⟨.identifier, "b", ⟨1, 4, 3, none⟩⟩,
      .endOfInput ⟨1, 5, 4, none⟩] := rfl
  have second : tokenize " a\n.. b" (some "f") = .ok [⟨.identifier, "a", ⟨1, 2, 1, some "f"⟩⟩,
      ⟨.punctuation .dotDot, "..", ⟨2, 1, 3, some "f"⟩⟩, ⟨.identifier, "b", ⟨2, 4, 6, some "f"⟩⟩,
      .endOfInput ⟨2, 5, 7, some "f"⟩] := rfl
  obtain ⟨moved, -, erased⟩ := layout_moves_only_locations
  exact ⟨moved _ rangeTokens _ (by decide), erased _ _ _ _ _ _ first second rfl .expression⟩

end Sierra
