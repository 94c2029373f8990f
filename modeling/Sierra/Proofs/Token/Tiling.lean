import Sierra.Proofs.Token.Spelling
import Sierra.Token.Lexer

/-!
# Texts as tokens and blanks

A text is tiled by tokens when it is nothing but blanks and the spellings of these tokens, each of
them at the location of its token and ending where nothing goes on with it. The lexer tiles every
text of admitted characters.
-/

namespace Sierra

set_option autoImplicit false

inductive Tiles : Location → List Char → List Token → Location → Prop where
  | done {here} : Tiles here [] [] here
  | blank {here c rest tokens finish} :
      Blank c → Tiles (here.step c) rest tokens finish → Tiles here (c :: rest) tokens finish
  | token {here kind first tail rest tokens finish} :
      Token.Kind.Spells kind (first :: tail) → kind.Stops rest →
      Tiles (here.after (first :: tail)) rest tokens finish →
      Tiles here (first :: tail ++ rest)
        (⟨kind, String.ofList (first :: tail), here⟩ :: tokens) finish

namespace Tiles

variable {here finish : Location} {tokens : List Token}

theorem tokens_of_nil (tiles : Tiles here [] tokens finish) : tokens = [] := by
  cases tiles with
  | done => rfl

theorem of_blank {c : Char} {rest : List Char} (blank : Blank c)
    (tiles : Tiles here (c :: rest) tokens finish) : Tiles (here.step c) rest tokens finish := by
  cases tiles with
  | blank _ tiles => exact tiles
  | token spells _ _ => exact absurd blank (not_blank_of_lexeme (is_lexeme_of_spells spells))

theorem of_gap {gap rest : List Char} (blank : ∀ c ∈ gap, Blank c)
    (tiles : Tiles here (gap ++ rest) tokens finish) :
    Tiles (here.after gap) rest tokens finish := by
  induction gap generalizing here with
  | nil => exact tiles
  | cons c gap induction =>
      exact induction (fun d member => blank d (by simp [member]))
        (of_blank (blank c (by simp)) tiles)

/-- The first token of a text that begins with a lexeme, which may be longer than the lexeme. -/
theorem of_lexeme {text behind : List Char} (lexeme : IsLexeme text)
    (tiles : Tiles here (text ++ behind) tokens finish) :
    ∃ kind text' rest tokens', tokens = ⟨kind, String.ofList text', here⟩ :: tokens' ∧
      text ++ behind = text' ++ rest ∧ kind.Spells text' ∧ kind.Stops rest ∧
      Tiles (here.after text') rest tokens' finish := by
  obtain ⟨first, tail, rfl, -⟩ := lead_of_lexeme lexeme
  generalize whole : first :: tail ++ behind = full at tiles
  cases tiles with
  | done => simp at whole
  | blank blank _ =>
      obtain ⟨rfl, -⟩ := List.cons.inj whole
      exact absurd blank (not_blank_of_lexeme lexeme)
  | token spells stops tiles => exact ⟨_, _, _, _, rfl, rfl, spells, stops, tiles⟩

end Tiles

theorem stops_of_drop_while {class' : Char → Bool} {kind : Token.Kind} (rest : List Char)
    (continues : ∀ c, class' c = true ↔ kind.Continues c) : kind.Stops (rest.dropWhile class') := by
  intro next head goesOn
  have outside := List.head?_dropWhile_not class' rest
  rw [head] at outside
  exact absurd ((continues next).mpr goesOn) (by simpa using outside)

/-- What the reader of a number or a word takes is in the class of characters it takes. -/
theorem continues_of_mem_take_while {class' : Char → Bool} {kind : Token.Kind} (rest : List Char)
    (continues : ∀ c, class' c = true ↔ kind.Continues c) :
    ∀ c ∈ rest.takeWhile class', kind.Continues c :=
  fun c member => (continues c).mp (List.all_eq_true.mp List.all_takeWhile c member)

theorem front_of_blank {c : Char} (blank : Blank c) (rest : List Char) :
    Front.ofText c rest = .blank := by
  rw [Front.ofText, if_pos ((is_blank_iff c).mpr blank)]

theorem continues_of_word (word : String) (c : Char) :
    (Token.Kind.ofWord word).Continues c ↔ Token.Kind.identifier.Continues c := by
  unfold Token.Kind.ofWord
  cases Keyword.ofSpelling? word <;> rfl

/-- Only the dot and the colon look at what is behind them. -/
theorem mark_of_character {c : Char} (character : MarkCharacter c) (rest : List Char) :
    ∃ mark tail behind, Alphabet.mark? c rest.head? = some mark ∧ rest = tail ++ behind ∧
      mark.spelling.toList = c :: tail ∧ (Token.Kind.punctuation mark).Stops behind := by
  have alone : ∀ mark : Mark, Alphabet.mark? c rest.head? = some mark →
      mark.spelling.toList = [c] → (Token.Kind.punctuation mark).Stops rest →
      ∃ mark tail behind, Alphabet.mark? c rest.head? = some mark ∧ rest = tail ++ behind ∧
        mark.spelling.toList = c :: tail ∧ (Token.Kind.punctuation mark).Stops behind :=
    fun mark found spelled stops => ⟨mark, [], rest, found, rfl, spelled, stops⟩
  simp only [MarkCharacter, List.mem_cons, List.not_mem_nil, or_false] at character
  rcases character with rfl | rfl | rfl | rfl | rfl | rfl | rfl | rfl | rfl
  · exact alone .leftParen rfl rfl fun _ _ => id
  · exact alone .rightParen rfl rfl fun _ _ => id
  · exact alone .leftBracket rfl rfl fun _ _ => id
  · exact alone .rightBracket rfl rfl fun _ _ => id
  · exact alone .comma rfl rfl fun _ _ => id
  · exact alone .semicolon rfl rfl fun _ _ => id
  · exact alone .equals rfl rfl fun _ _ => id
  · by_cases next : rest.head? = some '.'
    · obtain ⟨behind, rfl⟩ := List.head?_eq_some_iff.mp next
      exact ⟨.dotDot, ['.'], behind, rfl, rfl, rfl, fun _ _ => id⟩
    · apply alone .dot (by simp [Alphabet.mark?, next]) rfl
      intro c head goesOn
      obtain rfl : c = '.' := goesOn
      exact next head
  · by_cases next : rest.head? = some '='
    · obtain ⟨behind, rfl⟩ := List.head?_eq_some_iff.mp next
      exact ⟨.colonEquals, ['='], behind, rfl, rfl, rfl, fun _ _ => id⟩
    · apply alone .colon (by simp [Alphabet.mark?, next]) rfl
      intro c head goesOn
      obtain rfl : c = '=' := goesOn
      exact next head

/-- A character that is admitted and no blank begins a token, which is spelled by what is taken and
stops in front of what is left. -/
theorem front_of_lead {c : Char} (admitted : Admitted c) (lead : ¬Blank c) (rest : List Char) :
    ∃ kind tail behind, Front.ofText c rest = .token kind tail ∧ rest = tail ++ behind ∧
      kind.Spells (c :: tail) ∧ kind.Stops behind := by
  have notBlank : ¬Alphabet.isBlank c = true := fun blank => lead ((is_blank_iff c).mp blank)
  rw [Front.ofText, if_neg notBlank]
  by_cases digit : Digit c
  · have begins : Alphabet.beginsNumber c = true := (is_digit_iff c).mpr digit
    rw [if_pos begins]
    refine ⟨_, _, rest.dropWhile Alphabet.continuesNumber, rfl, ?_, ?_, ?_⟩
    · exact List.takeWhile_append_dropWhile.symm
    · exact ⟨digit, continues_of_mem_take_while rest continues_number_iff⟩
    · exact stops_of_drop_while rest continues_number_iff
  have notDigit : ¬Alphabet.beginsNumber c = true :=
    fun begins => digit ((is_digit_iff c).mp begins)
  rw [if_neg notDigit]
  by_cases letter : Letter c ∨ c = '_'
  · rw [if_pos ((begins_word_iff c).mpr letter)]
    have word : IsWord (c :: rest.takeWhile Alphabet.continuesWord) :=
      ⟨letter, continues_of_mem_take_while rest continues_word_iff⟩
    refine ⟨_, _, rest.dropWhile Alphabet.continuesWord, rfl, ?_, spells_of_word word, ?_⟩
    · exact List.takeWhile_append_dropWhile.symm
    · apply stops_of_drop_while
      exact fun next => (continues_word_iff next).trans (continues_of_word _ next).symm
  · have character : MarkCharacter c := by
      rcases admitted with blank | other | other | other | character
      · exact absurd blank lead
      · exact absurd (.inl other) letter
      · exact absurd other digit
      · exact absurd (.inr other) letter
      · exact character
    have notLetter : ¬Alphabet.beginsWord c = true :=
      fun begins => letter ((begins_word_iff c).mp begins)
    obtain ⟨mark, tail, behind, found, same, spelled, stops⟩ := mark_of_character character rest
    rw [if_neg notLetter, found]
    refine ⟨.punctuation mark, tail, behind, ?_, same, spelled.symm, stops⟩
    simp [spelled]

theorem exists_tiles (here : Location) (text : List Char) (admitted : ∀ c ∈ text, Admitted c) :
    ∃ tokens finish, Tiles here text tokens finish := by
  -- On the length of the text, since a token may be longer than one character.
  induction length : text.length using Nat.strongRecOn generalizing here text with
  | _ size induction =>
  cases text with
  | nil => exact ⟨[], here, .done⟩
  | cons c rest =>
      by_cases blank : Blank c
      · have shorter : rest.length < size := by
          rw [List.length_cons] at length
          omega
        obtain ⟨tokens, finish, tiles⟩ := induction _ shorter (here.step c) rest
          (fun d member => admitted d (by simp [member])) rfl
        exact ⟨tokens, finish, .blank blank tiles⟩
      · obtain ⟨kind, tail, behind, -, rfl, spells, stops⟩ :=
          front_of_lead (admitted c (by simp)) blank rest
        have shorter : behind.length < size := by
          rw [List.length_cons, List.length_append] at length
          omega
        obtain ⟨tokens, finish, tiles⟩ := induction _ shorter (here.after (c :: tail)) behind
          (fun d member => admitted d (by simp [member])) rfl
        exact ⟨_, finish, .token spells stops tiles⟩

theorem admitted_of_tiles {here finish : Location} {text : List Char} {tokens : List Token}
    (tiles : Tiles here text tokens finish) : ∀ c ∈ text, Admitted c := by
  induction tiles with
  | done => simp
  | blank blank _ induction =>
      intro c member
      rcases List.mem_cons.mp member with rfl | member
      · exact .inl blank
      · exact induction c member
  | token spells _ _ induction =>
      intro c member
      rcases List.mem_append.mp member with inside | behind
      · exact admitted_of_lexeme (is_lexeme_of_spells spells) c inside
      · exact induction c behind

/-- A spelling that stops is what a text that begins with it is seen to begin with. -/
theorem front_of_spells {kind : Token.Kind} {c : Char} {tail behind : List Char}
    (spells : kind.Spells (c :: tail)) (stops : kind.Stops behind) :
    Front.ofText c (tail ++ behind) = .token kind tail := by
  have lexeme := is_lexeme_of_spells spells
  obtain ⟨kind', tail', behind', front, same, spells', stops'⟩ :=
    front_of_lead (admitted_of_lexeme lexeme c (by simp)) (not_blank_of_lexeme lexeme)
      (tail ++ behind)
  have whole : c :: tail ++ behind = c :: tail' ++ behind' := by simp [same]
  obtain ⟨rfl, tails, -⟩ := stopped_unique spells spells' stops stops' whole
  rw [front, (List.cons.inj tails).2]

theorem admitted_of_continues {kind : Token.Kind} {c : Char} (continues : kind.Continues c) :
    Admitted c := by
  have words : Token.Kind.identifier.Continues c → Admitted c :=
    fun inside => .inr (inside.imp_right fun other => other.imp_right .inl)
  unfold Token.Kind.Continues at continues
  split at continues
  · exact words (.inr continues)
  · exact words continues
  · exact words continues
  · exact continues ▸ by decide
  · exact continues ▸ by decide
  · exact continues.elim

theorem stops_of_stray {c : Char} (outside : ¬Admitted c) (rest : List Char)
    (kind : Token.Kind) : kind.Stops (c :: rest) := by
  intro next head continues
  obtain rfl : c = next := by simpa using head
  exact outside (admitted_of_continues continues)

/-- What stops a spelling also stops it with something behind that does not go on with it. -/
theorem stops_append {kind : Token.Kind} {rest behind : List Char} (stops : kind.Stops rest)
    (apart : kind.Stops behind) : kind.Stops (rest ++ behind) := by
  cases rest with
  | nil => exact apart
  | cons c rest => exact fun next head => stops next head

/-- Over a text without line feeds only the column and the offset move. -/
theorem Location.after_of_line {text : List Char} (line : ∀ c ∈ text, c ≠ '\n') (here : Location) :
    (here.after text).line = here.line ∧ (here.after text).column = here.column + text.length ∧
      (here.after text).file = here.file := by
  induction text generalizing here with
  | nil => simp
  | cons c text induction =>
      have step : here.step c =
          { here with column := here.column + 1, offset := here.offset + c.utf8Size } := by
        rw [Location.step, if_neg (line c (by simp))]
      have others := induction (fun d member => line d (by simp [member])) (here.step c)
      rw [step] at others
      rw [Location.after_cons, step, List.length_cons]
      refine ⟨others.1, others.2.1.trans ?_, others.2.2⟩
      dsimp only
      omega

theorem Location.back_after {text : List Char} (line : ∀ c ∈ text, c ≠ '\n') (here : Location) :
    (here.after text).back text.length here.offset = here := by
  obtain ⟨lines, columns, files⟩ := Location.after_of_line line here
  rw [Location.back, lines, columns, files, Nat.add_sub_cancel]

namespace Lexer

theorem scan_skip (held : List Token) (here : Location) (tail behind : List Char) :
    scan held here tail.length (tail ++ behind) = scan held (here.after tail) 0 behind := by
  induction tail generalizing here with
  | nil => rfl
  | cons c tail induction =>
      rw [List.length_cons, List.cons_append, scan]
      exact induction (here.step c)

theorem scan_blank {c : Char} (blank : Blank c) (held : List Token) (here : Location)
    (rest : List Char) : scan held here 0 (c :: rest) = scan held (here.step c) 0 rest := by
  rw [scan, front_of_blank blank]

theorem scan_token {c : Char} {kind : Token.Kind} {tail behind : List Char}
    (front : Front.ofText c (tail ++ behind) = .token kind tail) (spells : kind.Spells (c :: tail))
    (held : List Token) (here : Location) : scan held here 0 (c :: (tail ++ behind)) =
      scan (⟨kind, String.ofList (c :: tail), here⟩ :: held) (here.after (c :: tail)) 0 behind := by
  rw [scan, front]
  simp only [Location.back_after (line_of_lexeme (is_lexeme_of_spells spells))]
  exact scan_skip _ _ _ _

/-- A tiled text is read as its tokens, as far as what is behind it does not go on with the last. -/
theorem scan_tiled {here finish : Location} {front : List Char} {tokens : List Token}
    (tiles : Tiles here front tokens finish) (held : List Token) {behind : List Char}
    (apart : ∀ kind : Token.Kind, kind.Stops behind) :
    scan held here 0 (front ++ behind) = scan (tokens.reverse ++ held) finish 0 behind := by
  induction tiles generalizing held with
  | done => rfl
  | @blank here c rest tokens finish blank _ induction =>
      rw [List.cons_append, scan_blank blank]
      exact induction held
  | @token here kind first tail rest tokens finish spells stops _ induction =>
      have begins := front_of_spells spells (stops_append stops (apart kind))
      rw [List.append_assoc, List.cons_append, scan_token begins spells, induction]
      simp

theorem scan_end (held : List Token) (here : Location) :
    scan held here 0 [] = (.ok (held.reverse ++ [Token.endOfInput here]), ⟨[], here, []⟩) := by
  rw [scan, List.reverse_cons]

theorem scan_whole {here finish : Location} {text : List Char} {tokens : List Token}
    (tiles : Tiles here text tokens finish) (held : List Token) : scan held here 0 text =
      (.ok (held.reverse ++ tokens ++ [Token.endOfInput finish]), ⟨[], finish, []⟩) := by
  have nothing : ∀ kind : Token.Kind, kind.Stops [] := by simp [Token.Kind.Stops]
  have reads := scan_tiled tiles held nothing
  rw [List.append_nil, scan_end] at reads
  simpa using reads

end Lexer

/-- A text of admitted characters is read as the tokens that tile it. -/
theorem tokenize_tiles (text : String) (file : Option String)
    (admitted : ∀ c ∈ text.toList, Admitted c) : ∃ tokens finish,
      Tiles (Location.start file) text.toList tokens finish ∧
      tokenize text file = .ok (tokens ++ [Token.endOfInput finish]) := by
  obtain ⟨tokens, finish, tiles⟩ := exists_tiles (Location.start file) text.toList admitted
  refine ⟨tokens, finish, tiles, ?_⟩
  exact congrArg Prod.fst (Lexer.scan_whole tiles [])

end Sierra
