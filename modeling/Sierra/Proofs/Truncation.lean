import Sierra.Proofs.Grammar.Classification
import Sierra.Proofs.Texts
import Sierra.Proofs.Token.Positions

/-!
# Texts that stop too early

A text that was read is cut between two of its tokens. What stands in front of the cut is read as
the tokens in front of it, and these begin a sentence. So the grammar finds nothing wrong with any
of them: the front is a whole text again, or it lacks something where it ends.
-/

namespace Sierra

set_option autoImplicit false

section Cut

variable {here finish : Location} {tokens : List Token} {kind : Token.Kind}

theorem stops_of_append {front back : List Char} (stops : kind.Stops (front ++ back)) :
    kind.Stops front := by
  intro next head
  cases front with
  | nil => simp at head
  | cons c front => exact stops next head

/-- No token of a text reaches over the point behind so many bytes. -/
def Uncut (tokens : List Token) (bytes : Nat) : Prop :=
  ∀ token ∈ tokens, token.location.offset < bytes →
    token.location.offset + token.lexeme.utf8ByteSize ≤ bytes

instance (tokens : List Token) (bytes : Nat) : Decidable (Uncut tokens bytes) :=
  inferInstanceAs (Decidable (∀ token ∈ tokens, _ → _))

/-- A part of a token that is neither nothing nor all of it reaches over its end. -/
theorem Uncut.whole {front between : List Char} (uncut : Uncut tokens (here.after front).offset)
    (member : ⟨kind, String.ofList (front ++ between), here⟩ ∈ tokens) (some : front ≠ []) :
    between = [] := by
  obtain ⟨c, tail, rfl⟩ := List.exists_cons_of_ne_nil some
  have bound := uncut _ member
  rw [Location.after_offset, String.ofList_append, String.utf8ByteSize_append, bytes_cons] at bound
  cases between with
  | nil => rfl
  | cons d between =>
      have positive := c.utf8Size_pos
      have positive' := d.utf8Size_pos
      rw [bytes_cons] at bound
      dsimp only at bound
      omega

theorem Tiles.cut {text front back : List Char} (tiles : Tiles here text tokens finish)
    (split : text = front ++ back) (uncut : Uncut tokens (here.after front).offset) :
    ∃ first others, tokens = first ++ others ∧ Tiles here front first (here.after front) := by
  induction tiles generalizing front with
  | @done here =>
      obtain ⟨rfl, -⟩ := List.append_eq_nil_iff.mp split.symm
      exact ⟨[], [], rfl, .done⟩
  | @blank here c rest tokens finish blank _ induction =>
      cases front with
      | nil => exact ⟨[], tokens, rfl, .done⟩
      | cons other front =>
          obtain ⟨rfl, split'⟩ := List.cons.inj split
          obtain ⟨first, others, same, tiles'⟩ := induction split' uncut
          exact ⟨first, others, same, .blank blank tiles'⟩
  | @token here kind head tail rest tokens finish spells stops _ induction =>
      have behind : ∀ between, front = head :: tail ++ between → rest = between ++ back →
          ∃ first others, ⟨kind, String.ofList (head :: tail), here⟩ :: tokens = first ++ others ∧
            Tiles here front first (here.after front) := by
        intro between longer left
        have later : Uncut tokens ((here.after (head :: tail)).after between).offset := by
          rw [← Location.after_append, ← longer]
          exact fun token member => uncut token (List.mem_cons_of_mem _ member)
        obtain ⟨first, others, same, tiles'⟩ := induction left later
        refine ⟨_ :: first, others, by rw [same, List.cons_append], ?_⟩
        rw [longer, Location.after_append]
        exact .token spells (stops_of_append (left ▸ stops)) tiles'
      cases front with
      | nil => exact ⟨[], _, rfl, .done⟩
      | cons other front =>
          rcases List.append_eq_append_iff.mp split with ⟨between, longer, left⟩ |
              ⟨between, inside, left⟩
          · exact behind between longer left
          · have member : ⟨kind, String.ofList (other :: front ++ between), here⟩ ∈
                (⟨kind, String.ofList (head :: tail), here⟩ :: tokens : List Token) :=
              inside ▸ List.mem_cons_self ..
            have whole : between = [] := uncut.whole member (List.cons_ne_nil other front)
            rw [whole] at inside left
            exact behind [] (by simpa using inside.symm) left.symm

/-- The front of a text that is cut between tokens is read as the tokens in front of the cut. -/
theorem tokenize_front {text front back : String} {file : Option String}
    (reply : tokenize text file = .ok tokens) (split : text = front ++ back)
    (uncut : Uncut tokens front.utf8ByteSize) : ∃ first others finish,
      tokens = first ++ others ++ [Token.endOfInput finish] ∧
      (∀ token ∈ first ++ others, token.kind ≠ .endOfInput) ∧
      tokenize front file =
        .ok (first ++ [Token.endOfInput ((Location.start file).after front.toList)]) := by
  obtain ⟨tiling, finish, tiles, rfl⟩ := tiles_of_tokenize reply
  have bytes : ((Location.start file).after front.toList).offset = front.utf8ByteSize := by
    rw [Location.after_offset, String.ofList_toList]
    exact Nat.zero_add _
  have inside : Uncut tiling ((Location.start file).after front.toList).offset :=
    bytes ▸ fun token member => uncut token (List.mem_append_left _ member)
  have characters : text.toList = front.toList ++ back.toList := by
    rw [split, String.toList_append]
  obtain ⟨first, others, rfl, tiles'⟩ := tiles.cut characters inside
  exact ⟨first, others, finish, rfl, tiles.kind_ne_end,
    congrArg Prod.fst (Lexer.scan_whole tiles' [])⟩

end Cut

/-- Behind tokens that begin a sentence nothing can be wrong but that they end. -/
theorem Rule.read_whole_front {rule : Rule} {tokens others : List Token} {finish here : Location}
    {node : Node} {error : Error} {rest : Input}
    (inside : ∀ token ∈ tokens ++ others, token.kind ≠ .endOfInput)
    (accepted : (rule.readWhole (Input.mk (tokens ++ others) finish)).1 = .ok node)
    (failed : rule.readWhole (Input.mk tokens here) = (.error error, rest)) :
    (∃ message place, error.fault = .incomplete message place) ∧ error.location = here := by
  have sentence : kinds (tokens ++ others) ∈ rule.phrase.sentences := by
    obtain ⟨used, run, whole⟩ := rule.read_whole_run ⟨tokens ++ others, finish⟩ inside
    have all : tokens ++ others = used := by simpa [whole node accepted] using run.tokens
    exact all ▸ Phrase.kinds_mem_sentences ((run.accepted node accepted node).mpr rfl)
  have viable : Viable rule.phrase.sentences (kinds tokens) :=
    ⟨kinds others, by rwa [← kinds_append]⟩
  obtain ⟨used, run, -⟩ := rule.read_whole_run ⟨tokens, here⟩
    (fun token member => inside token (List.mem_append_left _ member))
  rw [failed] at run
  have split : tokens = used ++ rest.tokens := run.tokens
  have ended : rest.ahead = none := by
    cases ahead : rest.ahead with
    | none => rfl
    | some kind =>
        obtain ⟨token, after, left, rfl⟩ := ahead_eq_some ahead
        have goesOn : Viable rule.phrase.sentences (kinds used ++ [token.kind]) :=
          viable_of_append (kinds after) (by simpa [split, left] using viable)
        exact absurd goesOn (run.maximal token.kind ahead)
  constructor
  · obtain ⟨_, -, fits⟩ := rule.read_whole_fits failed
    rw [next_ended ended] at fits
    exact fits.incomplete_at_end
  · have none : rest.tokens = [] := by simpa [Input.ahead] using ended
    have finish : rest.finish = here := run.finish
    rw [(run.rejected error rfl).1, Input.next, none]
    exact finish

/-- An error that says of a text that it stops too early, just where it stops. -/
structure Error.Truncates (error : Error) (file : Option String) (text : String) : Prop where
  incomplete : ∃ message place, error.fault = .incomplete message place
  location : error.location.Describes file text

theorem tree_of_front {rule : Rule} {text front back : String} {file : Option String} {node : Node}
    (whole : Node.ofText rule text file = .ok node) (split : text = front ++ back)
    (uncut : ∀ tokens, tokenize text file = .ok tokens → Uncut tokens front.utf8ByteSize) :
    (∃ other, Node.ofText rule front file = .ok other) ∨
      ∃ error, Node.ofText rule front file = .error error ∧ error.Truncates file front := by
  cases reply : tokenize text file with
  | error error => simp [Node.ofText, reply, bind, Except.bind] at whole
  | ok tokens =>
      obtain ⟨first, others, finish, rfl, inside, reply'⟩ :=
        tokenize_front reply split (uncut tokens reply)
      have inside' : ∀ token ∈ first, token.kind ≠ .endOfInput :=
        fun token member => inside token (List.mem_append_left _ member)
      rw [Node.of_text_eq rule reply inside] at whole
      rw [Node.of_text_eq rule reply' inside']
      cases answer : rule.readWhole (Input.mk first ((Location.start file).after front.toList)) with
      | mk result rest =>
          cases result with
          | ok other => exact .inl ⟨other, rfl⟩
          | error error =>
              obtain ⟨incomplete, location⟩ := Rule.read_whole_front inside whole answer
              refine .inr ⟨error, rfl, incomplete, ?_⟩
              rw [location]
              simpa using Location.describes_after file front.toList

theorem fronts_are_whole_or_truncated (text front back : String) (file : Option String)
    (split : text = front ++ back)
    (uncut : ∀ tokens, tokenize text file = .ok tokens → Uncut tokens front.utf8ByteSize) :
    (∀ rule node, Node.ofText rule text file = .ok node →
      (∃ other, Node.ofText rule front file = .ok other) ∨
        ∃ error, Node.ofText rule front file = .error error ∧ error.Truncates file front) ∧
    (∀ tree, SourceFile.ofText text file = .ok tree →
      (∃ other, SourceFile.ofText front file = .ok other) ∨
        ∃ error, SourceFile.ofText front file = .error error ∧ error.Truncates file front) := by
  refine ⟨fun rule node whole => tree_of_front whole split uncut, ?_⟩
  intro tree whole
  have node : Node.ofText .sourceFile text file = .ok (.sourceFile tree) := by
    rw [Node.of_text_source_file, whole]
    rfl
  have fronts := tree_of_front node split uncut
  rw [Node.of_text_source_file] at fronts
  cases reply : SourceFile.ofText front file with
  | ok other => exact .inl ⟨other, rfl⟩
  | error error =>
      rw [reply] at fronts
      rcases fronts with ⟨other, absurdity⟩ | ⟨error', same, truncates⟩
      · simp at absurdity
      · obtain rfl : error = error' := Except.error.inj same
        exact .inr ⟨error, rfl, truncates⟩

/-- Behind `:=` an expression is missing and behind `use` a name, right behind the blank. -/
theorem assignment_is_truncated :
    (∃ node, Node.ofText .statement "a := b;" none = .ok node) ∧
    (∃ error, Node.ofText .statement "a := " none = .error error ∧
      error.Truncates none "a := ") ∧
    (∃ tree, SourceFile.ofText "program a;\nuse b.c;" none = .ok tree) ∧
    ∃ error, SourceFile.ofText "program a;\nuse " none = .error error ∧
      error.location = ⟨2, 5, 15, none⟩ ∧ error.Truncates none "program a;\nuse " := by
  have uncut : ∀ tokens ∈ (tokenize "a := b;" none).toOption,
      Uncut tokens "a := ".utf8ByteSize := by decide +kernel
  obtain ⟨trees, -⟩ := fronts_are_whole_or_truncated "a := b;" "a := " "b;" none rfl
    fun tokens reply => uncut tokens (by simp [reply, Except.toOption])
  have uncut' : ∀ tokens ∈ (tokenize "program a;\nuse b.c;" none).toOption,
      Uncut tokens "program a;\nuse ".utf8ByteSize := by decide +kernel
  obtain ⟨-, files⟩ := fronts_are_whole_or_truncated "program a;\nuse b.c;" "program a;\nuse "
    "b.c;" none (by decide) fun tokens reply => uncut' tokens (by simp [reply, Except.toOption])
  let tokens : List Token := [⟨.identifier, "a", ⟨1, 1, 0, none⟩⟩,
    ⟨.punctuation .colonEquals, ":=", ⟨1, 3, 2, none⟩⟩, ⟨.identifier, "b", ⟨1, 6, 5, none⟩⟩,
    ⟨.punctuation .semicolon, ";", ⟨1, 7, 6, none⟩⟩]
  have reads : tokenize "a := b;" none = .ok (tokens ++ [.endOfInput ⟨1, 8, 7, none⟩]) := rfl
  have reads' : tokenize "a := " none = .ok (tokens.take 2 ++ [.endOfInput ⟨1, 6, 5, none⟩]) := rfl
  have whole : (Rule.statement.readWhole (Input.mk tokens ⟨1, 8, 7, none⟩)).1 = .ok _ := rfl
  have misses : (Rule.statement.readWhole (Input.mk (tokens.take 2) ⟨1, 6, 5, none⟩)).1 =
      .error _ := rfl
  rw [← Node.of_text_eq .statement reads (by decide)] at whole
  rw [← Node.of_text_eq .statement reads' (by decide)] at misses
  have whole' : SourceFile.ofText "program a;\nuse b.c;" none = .ok
      ⟨[.program ⟨⟨"a", ⟨1, 9, 8, none⟩⟩, ⟨1, 1, 0, none⟩⟩,
        .use ⟨⟨[⟨"b", ⟨2, 5, 15, none⟩⟩, ⟨"c", ⟨2, 7, 17, none⟩⟩]⟩, ⟨2, 1, 11, none⟩⟩]⟩ := by
    decide +kernel
  have misses' : SourceFile.ofText "program a;\nuse " none = .error
      ⟨.incomplete "Expected identifier, found end of input" .qualifiedIdentifier,
        ⟨2, 5, 15, none⟩⟩ := by decide +kernel
  refine ⟨⟨_, whole⟩, ?_, ⟨_, whole'⟩, _, misses', rfl, ?_⟩
  · rcases trees .statement _ whole with ⟨other, accepted⟩ | truncated
    · simp [misses] at accepted
    · exact truncated
  · rcases files _ whole' with ⟨other, accepted⟩ | ⟨error, failed, truncates⟩
    · simp [misses'] at accepted
    · exact Except.error.inj (misses'.symm.trans failed) ▸ truncates

end Sierra
