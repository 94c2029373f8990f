import Sierra.Token.Front

/-!
# Spellings of tokens

The patterns of the tokens, written out as sets of characters, and what the character behind a
spelling must not be for the spelling to end there. A spelling with such a character behind it is
never the beginning of a longer one, and no text is a spelling of two kinds.
-/

namespace Sierra

set_option autoImplicit false

def Blank (c : Char) : Prop :=
  c ∈ [' ', '\t', '\n', '\x0c', '\r']

def Letter (c : Char) : Prop :=
  ('a' ≤ c ∧ c ≤ 'z') ∨ ('A' ≤ c ∧ c ≤ 'Z')

def Digit (c : Char) : Prop :=
  '0' ≤ c ∧ c ≤ '9'

def MarkCharacter (c : Char) : Prop :=
  c ∈ ['(', ')', '[', ']', ',', ';', '=', '.', ':']

def Admitted (c : Char) : Prop :=
  Blank c ∨ Letter c ∨ Digit c ∨ c = '_' ∨ MarkCharacter c

/-- `[0-9][0-9_]*` -/
def IsNumber : List Char → Prop
  | [] => False
  | first :: tail => Digit first ∧ ∀ c ∈ tail, Digit c ∨ c = '_'

/-- `[A-Za-z_][A-Za-z0-9_]*` -/
def IsWord : List Char → Prop
  | [] => False
  | first :: tail => (Letter first ∨ first = '_') ∧ ∀ c ∈ tail, Letter c ∨ Digit c ∨ c = '_'

def IsLexeme (text : List Char) : Prop :=
  IsNumber text ∨ IsWord text ∨ ∃ mark : Mark, text = mark.spelling.toList

namespace Token.Kind

/-- The texts that a token of a kind can be written as. -/
def Spells : Token.Kind → List Char → Prop
  | number, text => IsNumber text
  | identifier, text => IsWord text ∧ ∀ word : Keyword, text ≠ word.spelling.toList
  | keyword word, text => text = word.spelling.toList
  | punctuation mark, text => text = mark.spelling.toList
  | endOfInput, _ => False

/-- The characters with which a spelling of a kind goes on to a longer one. -/
def Continues : Token.Kind → Char → Prop
  | number, c => Digit c ∨ c = '_'
  | identifier, c => Letter c ∨ Digit c ∨ c = '_'
  | keyword _, c => Letter c ∨ Digit c ∨ c = '_'
  | punctuation .dot, c => c = '.'
  | punctuation .colon, c => c = '='
  | _, _ => False

def Stops (kind : Token.Kind) (behind : List Char) : Prop :=
  ∀ next, behind.head? = some next → ¬kind.Continues next

end Token.Kind

theorem is_blank_iff (c : Char) : Alphabet.isBlank c = true ↔ Blank c := by
  simp [Alphabet.isBlank, Blank, or_assoc]

theorem is_digit_iff (c : Char) : c.isDigit = true ↔ Digit c := by
  simp only [Char.isDigit, Bool.and_eq_true, decide_eq_true_eq]
  rfl

theorem digits_of_to_string (number : Nat) : ∀ c ∈ (toString number).toList, Digit c := by
  intro c member
  rw [Nat.toString_eq_ofList_toDigits, String.toList_ofList] at member
  exact (is_digit_iff c).mp (Nat.isDigit_of_mem_toDigits (by decide) (by decide) member)

theorem is_alpha_iff (c : Char) : c.isAlpha = true ↔ Letter c := by
  have upper : c.isUpper = true ↔ 'A' ≤ c ∧ c ≤ 'Z' := decide_eq_true_iff
  have lower : c.isLower = true ↔ 'a' ≤ c ∧ c ≤ 'z' :=
    Bool.and_eq_true_iff.trans (and_congr decide_eq_true_iff decide_eq_true_iff)
  change (c.isUpper || c.isLower) = true ↔ _
  rw [Bool.or_eq_true, upper, lower]
  exact or_comm

instance (c : Char) : Decidable (Blank c) := decidable_of_iff _ (is_blank_iff c)

instance (c : Char) : Decidable (Letter c) := decidable_of_iff _ (is_alpha_iff c)

instance (c : Char) : Decidable (Digit c) := decidable_of_iff _ (is_digit_iff c)

instance (c : Char) : Decidable (MarkCharacter c) := inferInstanceAs (Decidable (c ∈ _))

instance (c : Char) : Decidable (Admitted c) := inferInstanceAs (Decidable (_ ∨ _))

theorem begins_word_iff (c : Char) : Alphabet.beginsWord c = true ↔ Letter c ∨ c = '_' := by
  simp [Alphabet.beginsWord, is_alpha_iff]

theorem continues_number_iff (c : Char) :
    Alphabet.continuesNumber c = true ↔ Token.Kind.number.Continues c := by
  simp [Alphabet.continuesNumber, is_digit_iff, Token.Kind.Continues]

theorem continues_word_iff (c : Char) :
    Alphabet.continuesWord c = true ↔ Token.Kind.identifier.Continues c := by
  simp [Alphabet.continuesWord, Char.isAlphanum, is_alpha_iff, is_digit_iff, Token.Kind.Continues,
    or_assoc]

theorem not_digit_of_letter {c : Char} (letter : Letter c ∨ c = '_') : ¬Digit c := by
  simp only [Letter, Digit, Char.le_def, UInt32.le_iff_toNat_le] at letter ⊢
  rcases letter with (⟨low, high⟩ | ⟨low, high⟩) | rfl
  · have bound : 'a'.val.toNat = 97 := rfl
    have bound' : '9'.val.toNat = 57 := rfl
    omega
  · have bound : 'A'.val.toNat = 65 := rfl
    have bound' : '9'.val.toNat = 57 := rfl
    omega
  · decide

/-- The characters of a text are tried one by one, which for all characters would take too long. -/
theorem forall_of_all {property : Char → Prop} [DecidablePred property] {text : List Char}
    (all : (text.all fun c => decide (property c)) = true) : ∀ c ∈ text, property c := by
  intro c member
  exact of_decide_eq_true (List.all_eq_true.mp all c member)

theorem not_letter_of_mark : ∀ c, MarkCharacter c → ¬(Letter c ∨ c = '_') := by
  unfold MarkCharacter
  exact forall_of_all (by decide)

theorem not_digit_of_mark : ∀ c, MarkCharacter c → ¬Digit c := by
  unfold MarkCharacter
  exact forall_of_all (by decide)

theorem not_lead_of_blank : ∀ c, Blank c → ¬(Digit c ∨ (Letter c ∨ c = '_') ∨ MarkCharacter c) := by
  unfold Blank
  exact forall_of_all (by decide)

theorem mark_character_of_spelling (mark : Mark) :
    ∃ first tail, mark.spelling.toList = first :: tail ∧ MarkCharacter first := by
  cases mark <;> exact ⟨_, _, rfl, by decide⟩

theorem letters_of_keyword (word : Keyword) : ∃ first tail,
    word.spelling.toList = first :: tail ∧ Letter first ∧
      ∀ c ∈ tail, Letter c ∨ Digit c ∨ c = '_' := by
  cases word <;> exact ⟨_, _, rfl, by decide, forall_of_all (by decide)⟩

theorem is_word_of_keyword (word : Keyword) : IsWord word.spelling.toList := by
  obtain ⟨first, tail, same, letter, others⟩ := letters_of_keyword word
  rw [same]
  exact ⟨.inl letter, others⟩

theorem spells_of_word {text : List Char} (word : IsWord text) :
    (Token.Kind.ofWord (String.ofList text)).Spells text := by
  unfold Token.Kind.ofWord
  cases found : Keyword.ofSpelling? (String.ofList text) with
  | some reserved =>
      have same : text = reserved.spelling.toList := by
        rw [Keyword.spelling_of_found found, String.toList_ofList]
      exact same
  | none =>
      refine ⟨word, ?_⟩
      intro reserved same
      have spelled : String.ofList text = reserved.spelling := by rw [same, String.ofList_toList]
      rw [spelled, Keyword.of_spelling_spelling] at found
      simp at found

theorem is_lexeme_of_spells {kind : Token.Kind} {text : List Char} (spells : kind.Spells text) :
    IsLexeme text := by
  cases kind with
  | number => exact .inl spells
  | identifier => exact .inr (.inl spells.1)
  | keyword word => exact .inr (.inl (spells ▸ is_word_of_keyword word))
  | punctuation mark => exact .inr (.inr ⟨mark, spells⟩)
  | endOfInput => exact spells.elim

/-- Every lexeme begins with a character that no other class of lexemes begins with. -/
theorem lead_of_lexeme {text : List Char} (lexeme : IsLexeme text) :
    ∃ first tail, text = first :: tail ∧
    ((IsNumber text ∧ Digit first) ∨ (IsWord text ∧ (Letter first ∨ first = '_')) ∨
      ((∃ mark : Mark, text = mark.spelling.toList) ∧ MarkCharacter first)) := by
  rcases lexeme with number | word | ⟨mark, rfl⟩
  · cases text with
    | nil => exact number.elim
    | cons first tail => exact ⟨first, tail, rfl, .inl ⟨number, number.1⟩⟩
  · cases text with
    | nil => exact word.elim
    | cons first tail => exact ⟨first, tail, rfl, .inr (.inl ⟨word, word.1⟩)⟩
  · obtain ⟨first, tail, same, character⟩ := mark_character_of_spelling mark
    exact ⟨first, tail, same, .inr (.inr ⟨⟨mark, rfl⟩, character⟩)⟩

theorem not_blank_of_lexeme {first : Char} {tail : List Char} (lexeme : IsLexeme (first :: tail)) :
    ¬Blank first := by
  intro blank
  obtain ⟨_, _, same, lead⟩ := lead_of_lexeme lexeme
  obtain ⟨rfl, rfl⟩ := List.cons.inj same
  exact not_lead_of_blank first blank (lead.imp And.right (Or.imp And.right And.right))

theorem character_of_lexeme {text : List Char} (lexeme : IsLexeme text) :
    ∀ c ∈ text, Digit c ∨ (Letter c ∨ c = '_') ∨ MarkCharacter c := by
  rcases lexeme with number | word | ⟨mark, rfl⟩
  · cases text with
    | nil => exact number.elim
    | cons first tail =>
        intro c member
        rcases List.mem_cons.mp member with rfl | member
        · exact .inl number.1
        · exact (number.2 c member).imp_right fun underscore => .inl (.inr underscore)
  · cases text with
    | nil => exact word.elim
    | cons first tail =>
        intro c member
        rcases List.mem_cons.mp member with rfl | member
        · exact .inr (.inl word.1)
        · rcases word.2 c member with letter | digit | underscore
          · exact .inr (.inl (.inl letter))
          · exact .inl digit
          · exact .inr (.inl (.inr underscore))
  · cases mark <;> exact forall_of_all (by decide)

theorem admitted_of_lexeme {text : List Char} (lexeme : IsLexeme text) :
    ∀ c ∈ text, Admitted c := by
  intro c member
  rcases character_of_lexeme lexeme c member with digit | (letter | underscore) | character
  · exact .inr (.inr (.inl digit))
  · exact .inr (.inl letter)
  · exact .inr (.inr (.inr (.inl underscore)))
  · exact .inr (.inr (.inr (.inr character)))

theorem line_of_lexeme {text : List Char} (lexeme : IsLexeme text) : ∀ c ∈ text, c ≠ '\n' := by
  intro c member newline
  have blank : Blank c := newline ▸ by decide
  exact not_lead_of_blank c blank (character_of_lexeme lexeme c member)

theorem is_number_of_digit {first : Char} {tail : List Char} (lexeme : IsLexeme (first :: tail))
    (digit : Digit first) : IsNumber (first :: tail) := by
  obtain ⟨_, _, same, ⟨number, -⟩ | ⟨-, letter⟩ | ⟨-, mark⟩⟩ := lead_of_lexeme lexeme
  · exact number
  · obtain ⟨rfl, -⟩ := List.cons.inj same
    exact absurd digit (not_digit_of_letter letter)
  · obtain ⟨rfl, -⟩ := List.cons.inj same
    exact absurd digit (not_digit_of_mark _ mark)

theorem is_word_of_letter {first : Char} {tail : List Char} (lexeme : IsLexeme (first :: tail))
    (letter : Letter first ∨ first = '_') : IsWord (first :: tail) := by
  obtain ⟨_, _, same, ⟨-, digit⟩ | ⟨word, -⟩ | ⟨-, mark⟩⟩ := lead_of_lexeme lexeme
  · obtain ⟨rfl, -⟩ := List.cons.inj same
    exact absurd digit (not_digit_of_letter letter)
  · exact word
  · obtain ⟨rfl, -⟩ := List.cons.inj same
    exact absurd letter (not_letter_of_mark _ mark)

theorem is_mark_of_character {first : Char} {tail : List Char} (lexeme : IsLexeme (first :: tail))
    (character : MarkCharacter first) : ∃ mark : Mark, first :: tail = mark.spelling.toList := by
  obtain ⟨_, _, same, ⟨-, digit⟩ | ⟨-, letter⟩ | ⟨mark, -⟩⟩ := lead_of_lexeme lexeme
  · obtain ⟨rfl, -⟩ := List.cons.inj same
    exact absurd digit (not_digit_of_mark _ character)
  · obtain ⟨rfl, -⟩ := List.cons.inj same
    exact absurd letter (not_letter_of_mark _ character)
  · exact mark

/-- The only marks that are the beginning of another are the dot and the colon. -/
theorem mark_of_prefix (mark mark' : Mark) (c : Char) (more : List Char)
    (longer : mark.spelling.toList ++ c :: more = mark'.spelling.toList) :
    (Token.Kind.punctuation mark).Continues c := by
  have pairs : ∀ mark ∈ Mark.all, ∀ mark' ∈ Mark.all,
      mark.spelling.toList.isPrefixOf mark'.spelling.toList = true → mark = mark' ∨
        (mark = .dot ∧ mark' = .dotDot) ∨ (mark = .colon ∧ mark' = .colonEquals) := by
    decide
  have front : mark.spelling.toList.isPrefixOf mark'.spelling.toList = true := by
    rw [← longer, List.isPrefixOf_iff_prefix]
    exact List.prefix_append ..
  rcases pairs mark mark.mem_all mark' mark'.mem_all front with rfl | ⟨rfl, rfl⟩ | ⟨rfl, rfl⟩
  · simp at longer
  · have same : ['.'] ++ c :: more = ['.', '.'] := longer
    simp_all [Token.Kind.Continues]
  · have same : [':'] ++ c :: more = [':', '='] := longer
    simp_all [Token.Kind.Continues]

theorem continues_of_longer {kind : Token.Kind} {text more : List Char} {next : Char}
    (spells : kind.Spells text) (longer : IsLexeme (text ++ next :: more)) :
    kind.Continues next := by
  have words : IsWord text → Token.Kind.identifier.Continues next := by
    intro word
    cases text with
    | nil => exact word.elim
    | cons first tail => exact (is_word_of_letter longer word.1).2 next (by simp)
  cases kind with
  | number =>
      cases text with
      | nil => exact spells.elim
      | cons first tail => exact (is_number_of_digit longer spells.1).2 next (by simp)
  | identifier => exact words spells.1
  | keyword word => exact words (spells ▸ is_word_of_keyword word)
  | punctuation mark =>
      obtain rfl : text = mark.spelling.toList := spells
      obtain ⟨first, tail, same, character⟩ := mark_character_of_spelling mark
      rw [same, List.cons_append] at longer
      obtain ⟨mark', spelled⟩ := is_mark_of_character longer character
      exact mark_of_prefix mark mark' next more (by rw [same, ← spelled]; rfl)
  | endOfInput => exact spells.elim

/-- A spelling that stops is the longest lexeme in its place. -/
theorem longest_of_stops {kind : Token.Kind} {text behind other : List Char}
    (spells : kind.Spells text) (stops : kind.Stops behind) (front : other <+: text ++ behind)
    (lexeme : IsLexeme other) : other.length ≤ text.length := by
  obtain ⟨rest, same⟩ := front
  rcases List.append_eq_append_iff.mp same with ⟨between, shorter, -⟩ | ⟨between, longer, left⟩
  · simp [shorter]
  · cases between with
    | nil => simp [longer]
    | cons next between =>
        rw [longer] at lexeme
        exact absurd (continues_of_longer spells lexeme) (stops next (by simp [left]))

theorem mark_unique {mark mark' : Mark} (same : mark.spelling.toList = mark'.spelling.toList) :
    mark = mark' := by
  have pairs : ∀ mark ∈ Mark.all, ∀ mark' ∈ Mark.all,
      mark.spelling.toList = mark'.spelling.toList → mark = mark' := by
    decide
  exact pairs mark mark.mem_all mark' mark'.mem_all same

theorem spells_cases {kind : Token.Kind} {text : List Char} (spells : kind.Spells text) :
    (kind = .number ∧ IsNumber text) ∨
    (kind = .ofWord (String.ofList text) ∧ IsWord text) ∨
    ∃ mark, kind = .punctuation mark ∧ text = mark.spelling.toList := by
  cases kind with
  | number => exact .inl ⟨rfl, spells⟩
  | identifier =>
      refine .inr (.inl ⟨?_, spells.1⟩)
      unfold Token.Kind.ofWord
      cases found : Keyword.ofSpelling? (String.ofList text) with
      | none => rfl
      | some word =>
          have same : word.spelling = String.ofList text := Keyword.spelling_of_found found
          exact absurd (by rw [same, String.toList_ofList]) (spells.2 word)
  | keyword word =>
      obtain rfl : text = word.spelling.toList := spells
      refine .inr (.inl ⟨?_, is_word_of_keyword word⟩)
      rw [Token.Kind.ofWord, String.ofList_toList, Keyword.of_spelling_spelling]
  | punctuation mark => exact .inr (.inr ⟨mark, rfl, spells⟩)
  | endOfInput => exact spells.elim

theorem spells_unique {kind kind' : Token.Kind} {text : List Char} (spells : kind.Spells text)
    (spells' : kind'.Spells text) : kind = kind' := by
  have numbers : IsNumber text → ¬IsWord text := by
    intro number word
    cases text with
    | nil => exact number.elim
    | cons first tail => exact not_digit_of_letter word.1 number.1
  have marks : ∀ mark : Mark, text = mark.spelling.toList → ¬IsNumber text ∧ ¬IsWord text := by
    intro mark same
    obtain ⟨first, tail, spelled, character⟩ := mark_character_of_spelling mark
    rw [same, spelled]
    exact ⟨fun number => not_digit_of_mark _ character number.1,
      fun word => not_letter_of_mark _ character word.1⟩
  rcases spells_cases spells with ⟨rfl, number⟩ | ⟨rfl, word⟩ | ⟨mark, rfl, same⟩
  · rcases spells_cases spells' with ⟨rfl, -⟩ | ⟨-, word'⟩ | ⟨mark', -, same'⟩
    · rfl
    · exact absurd word' (numbers number)
    · exact absurd number (marks mark' same').1
  · rcases spells_cases spells' with ⟨-, number'⟩ | ⟨rfl, -⟩ | ⟨mark', -, same'⟩
    · exact absurd word (numbers number')
    · rfl
    · exact absurd word (marks mark' same').2
  · rcases spells_cases spells' with ⟨-, number'⟩ | ⟨-, word'⟩ | ⟨mark', rfl, same'⟩
    · exact absurd number' (marks mark same).1
    · exact absurd word' (marks mark same).2
    · rw [mark_unique (same.symm.trans same')]

/-- Where a spelling stops determines the token and what is left. -/
theorem stopped_unique {kind kind' : Token.Kind} {text text' rest rest' : List Char}
    (spells : kind.Spells text) (spells' : kind'.Spells text') (stops : kind.Stops rest)
    (stops' : kind'.Stops rest') (same : text ++ rest = text' ++ rest') :
    kind = kind' ∧ text = text' ∧ rest = rest' := by
  have short : text'.length ≤ text.length :=
    longest_of_stops spells stops ⟨rest', same.symm⟩ (is_lexeme_of_spells spells')
  have long : text.length ≤ text'.length :=
    longest_of_stops spells' stops' ⟨rest, same⟩ (is_lexeme_of_spells spells)
  obtain ⟨rfl, rfl⟩ := List.append_inj same (by omega)
  exact ⟨spells_unique spells spells', rfl, rfl⟩

end Sierra
