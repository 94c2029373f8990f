import Mathlib.Data.List.Induction
import Sierra.Proofs.Token.Resuming

/-!
# True positions

A location describes the text in front of it: how many bytes it has, how many lines it ends, and how
many characters stand in its last line. Every location that a lexer gives out, in whatever call,
describes the text in front of what it locates. It is found by counting back from behind a token,
which never goes too far since no token spans lines.
-/

namespace Sierra

set_option autoImplicit false

namespace Location

/-- The location behind the text `front`, with which its file begins. -/
structure Describes (here : Location) (file : Option String) (front : String) : Prop where
  offset : here.offset = front.utf8ByteSize
  line : here.line = 1 + front.toList.count '\n'
  column : here.column = 1 + (front.toList.reverse.takeWhile (· ≠ '\n')).length
  file : here.file = file

theorem describes_after (file : Option String) (front : List Char) :
    ((start file).after front).Describes file (String.ofList front) := by
  induction front using List.reverseRecOn with
  | nil => exact ⟨rfl, rfl, rfl, rfl⟩
  | append_singleton front c induction =>
      have offset : ((start file).after (front ++ [c])).offset =
          (String.ofList (front ++ [c])).utf8ByteSize := by
        rw [after_offset]
        exact Nat.zero_add _
      obtain ⟨-, line, column, same⟩ := induction
      rw [String.toList_ofList] at line column
      have last : (start file).after (front ++ [c]) = ((start file).after front).step c :=
        after_append ..
      by_cases newline : c = '\n'
      · subst newline
        refine ⟨offset, ?_, ?_, ?_⟩
        · simp [last, step, line, Nat.add_assoc]
        · simp [last, step]
        · simp [last, step, same]
      · refine ⟨offset, ?_, ?_, ?_⟩
        · simp [last, step, newline, line]
        · simp [last, step, newline, column, Nat.add_assoc]
        · simp [last, step, newline, same]

/-- The location of `lexeme` between two parts of a text. It is also what counting back the columns
of the lexeme from behind it gives, and these columns are there. -/
structure Locates (here : Location) (file : Option String) (text front lexeme back : String) :
    Prop where
  split : text = front ++ lexeme ++ back
  describes : here.Describes file front
  inside : lexeme.length ≤ ((start file).after (front ++ lexeme).toList).column
  recovered : here = ((start file).after (front ++ lexeme).toList).back lexeme.length
    front.utf8ByteSize

theorem locates_after {text : String} {front lexeme back : List Char}
    (split : text.toList = front ++ (lexeme ++ back)) (line : ∀ c ∈ lexeme, c ≠ '\n')
    (file : Option String) : ((start file).after front).Locates file text (String.ofList front)
      (String.ofList lexeme) (String.ofList back) := by
  have whole : ((start file).after (String.ofList front ++ String.ofList lexeme).toList) =
      ((start file).after front).after lexeme := by
    rw [String.toList_append, String.toList_ofList, String.toList_ofList, after_append]
  have describes := describes_after file front
  constructor
  · apply String.toList_injective
    simp [split]
  · exact describes
  · rw [whole, (after_of_line line _).2.1, String.length_ofList]
    exact Nat.le_add_left ..
  · rw [whole, String.length_ofList, ← describes.offset, back_after line]

end Location

theorem strays_stand (here : Location) (text : List Char) : ∀ error ∈ strays here text,
    ∃ front c back, text = front ++ c :: back ∧ ¬Admitted c ∧
      error = ⟨.strayCharacter c, here.after front⟩ := by
  induction text generalizing here with
  | nil => simp [strays]
  | cons c text induction =>
      intro error member
      have behind : error ∈ strays (here.step c) text →
          ∃ front d back, c :: text = front ++ d :: back ∧ ¬Admitted d ∧
            error = ⟨.strayCharacter d, here.after front⟩ := by
        intro member
        obtain ⟨front, d, back, split, outside, same⟩ := induction (here.step c) error member
        exact ⟨c :: front, d, back, by simp [split], outside, same⟩
      rw [strays] at member
      split at member
      · exact behind member
      · rename_i outside
        rcases List.mem_cons.mp member with same | member
        · exact ⟨[], c, text, rfl, outside, same⟩
        · exact behind member

theorem Parted.stands {here : Location} {text : List Char} {tokens : List Token}
    (parted : Parted here text tokens) :
    ∀ token ∈ tokens, ∃ front back, Tiles.Stands here text token front back := by
  induction parted with
  | last tiles => exact tiles.stands
  | @stray here first tokens finish c behind others tiles outside _ induction =>
      intro token member
      rcases List.mem_append.mp member with member | member
      · obtain ⟨front, back, stands⟩ := tiles.stands token member
        exact ⟨front, back ++ c :: behind, by simp [stands.split], stands.location, stands.spells,
          stops_append stands.stops (stops_of_stray outside behind token.kind)⟩
      · obtain ⟨front, back, stands⟩ := induction token member
        refine ⟨first ++ c :: front, back, by simp [stands.split], ?_, stands.spells,
          stands.stops⟩
        rw [stands.location, tiles.finish_eq, Location.after_append, Location.after_cons]

/-- A token whose lexeme stands where its location says and stops there. The end of input has no
lexeme, and nothing stands behind it. -/
def Token.Placed (token : Token) (file : Option String) (text : String) : Prop :=
  ∃ front back, token.location.Locates file text front token.lexeme back ∧
    ((token.kind = .endOfInput ∧ token.lexeme = "" ∧ back = "") ∨
      (token.kind.Spells token.lexeme.toList ∧ token.kind.Stops back.toList))

def Error.Placed (error : Error) (file : Option String) (text : String) : Prop :=
  ∃ front c back, ¬Admitted c ∧ error.fault = .strayCharacter c ∧
    error.location.Locates file text front (String.singleton c) back

section Placed

variable {text : String} {file : Option String}

theorem Parted.placed {tokens : List Token}
    (parted : Parted (Location.start file) text.toList tokens) :
    ∀ token ∈ tokens, token.Placed file text := by
  intro token member
  obtain ⟨front, back, stands⟩ := parted.stands token member
  have line := line_of_lexeme (is_lexeme_of_spells stands.spells)
  have located := Location.locates_after stands.split line file
  rw [String.ofList_toList, ← stands.location] at located
  exact ⟨_, _, located, .inr ⟨stands.spells, by simpa using stands.stops⟩⟩

theorem end_placed (text : String) (file : Option String) :
    (Token.endOfInput ((Location.start file).after text.toList)).Placed file text := by
  have split : text.toList = text.toList ++ ([] ++ []) := by simp
  have located := Location.locates_after split (by simp) file
  rw [String.ofList_toList] at located
  exact ⟨text, "", located, .inl ⟨rfl, rfl, rfl⟩⟩

theorem strays_placed :
    ∀ error ∈ strays (Location.start file) text.toList, error.Placed file text := by
  intro error member
  obtain ⟨front, c, back, split, outside, rfl⟩ := strays_stand _ _ error member
  have line : ∀ d ∈ [c], d ≠ '\n' := by
    intro d single newline
    obtain rfl := List.mem_singleton.mp single
    exact outside (newline ▸ by decide)
  have located := Location.locates_after split line file
  exact ⟨_, c, _, outside, rfl, String.singleton_eq_ofList ▸ located⟩

end Placed

theorem answers_cases {tokens : List Token} {ending : Token} {times : Nat} {errors : List Error}
    {answer : Except Error (List Token)} (given : answer ∈ answers tokens ending times errors) :
    (∃ error ∈ errors, answer = .error error) ∨ answer = .ok (tokens ++ [ending]) ∨
      answer = .ok [ending] := by
  induction times generalizing errors with
  | zero => simp [answers] at given
  | succ times induction =>
      cases errors with
      | nil =>
          rcases List.mem_cons.mp given with same | later
          · exact .inr (.inl same)
          · exact .inr (.inr (List.eq_of_mem_replicate later))
      | cons error errors =>
          rcases List.mem_cons.mp given with same | later
          · exact .inl ⟨error, by simp, same⟩
          · rcases induction later with ⟨other, member, same⟩ | rest
            · exact .inl ⟨other, by simp [member], same⟩
            · exact .inr rest

theorem locations_are_true (text : String) (file : Option String) (times : Nat)
    (answer : Except Error (List Token))
    (given : answer ∈ (Lexer.ofText text file).tokenizeTimes times) :
    (∀ tokens, answer = .ok tokens → ∀ token ∈ tokens, token.Placed file text) ∧
    (∀ error, answer = .error error → error.Placed file text) := by
  obtain ⟨tokens, parted⟩ := exists_parted (Location.start file) text.toList
  have calls : (Lexer.ofText text file).tokenizeTimes times = _ := parted.tokenize_times [] times
  rw [calls] at given
  rcases answers_cases given with ⟨error, member, rfl⟩ | rfl | rfl
  · refine ⟨by simp, ?_⟩
    intro other same
    exact Except.error.inj same ▸ strays_placed error member
  · refine ⟨?_, by simp⟩
    intro all same token member
    obtain rfl := Except.ok.inj same
    rcases List.mem_append.mp member with member | single
    · exact parted.placed token member
    · exact List.mem_singleton.mp single ▸ end_placed text file
  · refine ⟨?_, by simp⟩
    intro all same token single
    obtain rfl := Except.ok.inj same
    exact List.mem_singleton.mp single ▸ end_placed text file

/-- The second call hands out a name that stands in the second line, behind a character of two
bytes. -/
theorem name_behind_stray_is_located :
    (.ok [⟨.identifier, "a", ⟨1, 1, 0, some "f"⟩⟩, ⟨.identifier, "b", ⟨2, 2, 4, some "f"⟩⟩,
        .endOfInput ⟨2, 3, 5, some "f"⟩] : Except Error (List Token)) ∈
      (Lexer.ofText "a\néb" (some "f")).tokenizeTimes 2 ∧
    Token.Placed ⟨.identifier, "b", ⟨2, 2, 4, some "f"⟩⟩ (some "f") "a\néb" := by
  have given : (.ok [⟨.identifier, "a", ⟨1, 1, 0, some "f"⟩⟩,
      ⟨.identifier, "b", ⟨2, 2, 4, some "f"⟩⟩, .endOfInput ⟨2, 3, 5, some "f"⟩] :
        Except Error (List Token)) ∈ (Lexer.ofText "a\néb" (some "f")).tokenizeTimes 2 :=
    List.mem_of_getElem? (i := 1) rfl
  exact ⟨given, (locations_are_true _ _ 2 _ given).1 _ rfl _ (by simp)⟩

end Sierra
