import Sierra.Proofs.Grammar.Echoes
import Sierra.Proofs.Texts
import Sierra.Proofs.Token.Fusion
import Sierra.Proofs.Token.Positions
import Sierra.Proofs.Token.Relocation

/-!
# One file behind another

A line feed ends every token, and no unit of a file can go on. So a text that is a file can be put
in front of any other text, with a line feed between: its units are read first, and the other text
is read as it is read alone, only further down.
-/

namespace Sierra

set_option autoImplicit false

open Sierra.Parser

section Front

variable {α : Type} {parser : Parser Input α} {phrase : Phrase α} {outline : Outline Token.Kind}
  {front : List Token}

/-- Where nothing can go on behind a sentence, it is read whatever stands behind it. -/
theorem Reading.read_front (reading : Reading parser phrase anything outline)
    (closed : outline.next = []) {value : α} (derived : phrase front value) (back : List Token)
    (finish : Location) : parser ⟨front ++ back, finish⟩ = (.ok value, ⟨back, finish⟩) := by
  obtain ⟨used, run⟩ := reading.reads ⟨front ++ back, finish⟩
  have sentence := Phrase.kinds_mem_sentences derived
  rcases reply : parser ⟨front ++ back, finish⟩ with ⟨answer, rest, finish'⟩
  rw [reply] at run
  have taken : front = used := by
    rcases List.append_eq_append_iff.mp run.tokens with ⟨between, longer, -⟩ |
        ⟨between, shorter, left⟩
    · cases between with
      | nil => simpa using longer.symm
      | cons token between =>
          have goesOn : Viable phrase.sentences (kinds front ++ [token.kind]) := by
            apply viable_of_append (kinds between)
            simpa [longer] using run.viable
          have member := reading.outlined.next _ _ sentence goesOn
          rw [closed] at member
          exact absurd member List.not_mem_nil
    · cases between with
      | nil => simpa using shorter
      | cons token between =>
          have goesOn : Viable phrase.sentences (kinds used ++ [token.kind]) :=
            ⟨kinds between, by simpa [shorter] using sentence⟩
          exact absurd goesOn (run.maximal token.kind (head_ahead left))
  subst taken
  obtain rfl : back = rest := List.append_cancel_left run.tokens
  obtain rfl : finish' = finish := run.finish
  cases answer with
  | error error => exact absurd trivial ((run.rejected error rfl).2 sentence)
  | ok other =>
      obtain rfl := (run.accepted other rfl value).mp derived
      rfl

theorem Reading.many_front (reading : Reading parser phrase anything outline)
    (solid : outline.empty = false) (closed : outline.next = []) {values : List α}
    (derived : phrase.many front values) (back : List Token) (finish : Location) :
    manyWhile (fun _ => true) parser ⟨front ++ back, finish⟩ =
      ((values ++ ·) <$> manyWhile (fun _ => true) parser) ⟨back, finish⟩ := by
  have full := reading.outlined.not_nil solid
  have consumes := reading.consumes solid fun _ => true
  induction derived with
  | done => exact (congrFun (id_map _) _).symm
  | @round front others value values derived _ induction =>
      have go : (Input.ahead ⟨front ++ others ++ back, finish⟩).any (fun _ => true) = true := by
        cases front with
        | nil => exact absurd (Phrase.kinds_mem_sentences derived) full
        | cons token front => rfl
      rw [many_while_go consumes go, seq_eq_bind_map, bind_map_left, List.append_assoc,
        bind_of_ok (reading.read_front closed derived (others ++ back) finish),
        map_congr_at (List.cons value) induction, ← comp_map]
      rfl

end Front

theorem SourceFile.read_front {front : List Token} {before : SourceFile}
    (derived : SourceFile.phrase front before) (back : List Token) (finish : Location) :
    SourceFile.read (Input.mk (front ++ back) finish) =
      ((fun after => SourceFile.mk (before.units ++ after.units)) <$> SourceFile.read)
        (Input.mk back finish) := by
  obtain ⟨units, derived, rfl⟩ := derived
  have units_first := SyntaxUnit.reading.many_front rfl rfl derived back finish
  have same : (SourceFile.read : Parser Input SourceFile) =
      SourceFile.mk <$> manyWhile (fun _ => true) SyntaxUnit.read := by
    rw [map_eq_pure_bind]
    rfl
  rw [same, map_congr_at SourceFile.mk units_first, ← comp_map, ← comp_map]
  rfl

section Text

variable {first : String} {file : Option String} {tokens : List Token} {finish : Location}

/-- What moves a text behind another text and a line feed. -/
def Location.behind (first : String) : Location → Location :=
  shift (first.toList.count '\n' + 1) (first.utf8ByteSize + 1)

theorem Location.Describes.feed {here : Location} (describes : here.Describes file first) :
    here.step '\n' = behind first (start file) := by
  obtain ⟨offset, line, -, same⟩ := describes
  have byte : '\n'.utf8Size = 1 := rfl
  simp [step, behind, shift, start, offset, line, same, byte, Nat.add_assoc]

/-- A line feed goes on with no token, so the text in front of it is read as it is read alone. -/
theorem tokenize_joined (tiles : Tiles (Location.start file) first.toList tokens finish)
    (second : String) : tokenize (first ++ "\n" ++ second) file =
      relocateAnswer (Location.behind first)
        (fun others => tokens ++ others.map (Token.relocate (Location.behind first)))
        (tokenize second file) := by
  have split : (first ++ "\n" ++ second).toList = first.toList ++ '\n' :: second.toList := by
    simp
  have blank : Blank '\n' := by decide
  have apart : ∀ kind : Token.Kind, kind.Stops ('\n' :: second.toList) :=
    fun kind => Token.Kind.stops_of_blank blank second.toList kind
  have rigid : Location.Rigid (Location.behind first) := Location.shift_rigid _ _
  have describes : finish.Describes file first := by
    rw [tiles.finish_eq]
    simpa using Location.describes_after file first.toList
  change (Lexer.scan [] (Location.start file) 0 (first ++ "\n" ++ second).toList).1 = _
  rw [split, Lexer.scan_tiled tiles [] apart, Lexer.scan_blank blank, describes.feed,
    Lexer.scan_relocate rigid, List.reverse_append, List.reverse_reverse]
  rfl

end Text

/-- Nothing of the units in front comes into what is read behind them. -/
theorem SourceFile.read_joined {front : List Token} {before : SourceFile}
    (derived : SourceFile.phrase front before) (move : Location → Location) (tokens : List Token)
    (finish : Location) :
    (SourceFile.read (Input.mk (front ++ tokens.map (Token.relocate move)) (move finish))).1 =
      relocateAnswer move (fun after => ⟨before.units ++ (after.relocate move).units⟩)
        (SourceFile.read (Input.mk tokens finish)).1 := by
  have moved : SourceFile.read (Input.mk (tokens.map (Token.relocate move)) (move finish)) = _ :=
    SourceFile.echoed.relocate ⟨tokens, finish⟩
  rw [read_front derived]
  cases answer : (SourceFile.read (Input.mk tokens finish)).1 with
  | error error =>
      rw [answer] at moved
      exact congrArg Prod.fst (bind_of_error moved)
  | ok after =>
      rw [answer] at moved
      exact congrArg Prod.fst (bind_of_ok moved)

theorem Input.of_joined {front tokens : List Token}
    (inside : ∀ token ∈ front, token.kind ≠ .endOfInput)
    (inside' : ∀ token ∈ tokens, token.kind ≠ .endOfInput) (move : Location → Location)
    (finish : Location) :
    Input.ofTokens (front ++ (tokens ++ [Token.endOfInput finish]).map (Token.relocate move)) =
      ⟨front ++ tokens.map (Token.relocate move), move finish⟩ := by
  have all : ∀ token ∈ front ++ tokens.map (Token.relocate move), token.kind ≠ .endOfInput := by
    simp only [List.mem_append, List.mem_map]
    rintro token (member | ⟨token, member, rfl⟩)
    · exact inside token member
    · exact inside' token member
  rw [List.map_append, ← List.append_assoc]
  exact of_closed all (move finish)

theorem files_compose (first second : String) (file : Option String) (before : SourceFile)
    (reads : SourceFile.ofText first file = .ok before) :
    SourceFile.ofText (first ++ "\n" ++ second) file =
      match SourceFile.ofText second file with
      | .ok after => .ok ⟨before.units ++ (after.relocate (Location.behind first)).units⟩
      | .error error => .error (error.relocate (Location.behind first)) := by
  obtain ⟨tokens, finish, tiles, derived⟩ := SourceFile.tiles_of_text reads
  rw [SourceFile.of_text_eq_read, SourceFile.of_text_eq_read, tokenize_joined tiles]
  cases reply : tokenize second file with
  | error error => rfl
  | ok all =>
      obtain ⟨others, ending, tiles', rfl⟩ := tiles_of_tokenize reply
      have joined := Input.of_joined tiles.kind_ne_end tiles'.kind_ne_end (Location.behind first)
        ending
      have alone := Input.of_closed tiles'.kind_ne_end ending
      simp only [relocateAnswer, bind, Except.bind, joined, alone]
      rw [SourceFile.read_joined derived]
      cases (SourceFile.read (Input.mk others ending)).1 with
      | error error => rfl
      | ok after => rfl

/-- A program that stands alone in the second line. -/
theorem program_behind_use_is_moved :
    SourceFile.ofText "use a;" none =
      .ok ⟨[.use ⟨⟨[⟨"a", ⟨1, 5, 4, none⟩⟩]⟩, ⟨1, 1, 0, none⟩⟩]⟩ ∧
    SourceFile.ofText ("use a;" ++ "\n" ++ "program b;") none =
      .ok ⟨[.use ⟨⟨[⟨"a", ⟨1, 5, 4, none⟩⟩]⟩, ⟨1, 1, 0, none⟩⟩,
        .program ⟨⟨"b", ⟨2, 9, 15, none⟩⟩, ⟨2, 1, 7, none⟩⟩]⟩ := by
  have reads : SourceFile.ofText "use a;" none =
      .ok ⟨[.use ⟨⟨[⟨"a", ⟨1, 5, 4, none⟩⟩]⟩, ⟨1, 1, 0, none⟩⟩]⟩ := by decide +kernel
  have alone : SourceFile.ofText "program b;" none =
      .ok ⟨[.program ⟨⟨"b", ⟨1, 9, 8, none⟩⟩, ⟨1, 1, 0, none⟩⟩]⟩ := by decide +kernel
  have composed := files_compose "use a;" "program b;" none _ reads
  rw [alone] at composed
  exact ⟨reads, composed⟩

end Sierra
