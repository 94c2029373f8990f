import Sierra.Proofs.Token.Spelling

/-!
# Neighbours that fuse

A spelling written right behind another either begins a token of its own or is drawn into the token
in front of it. The second happens when the first spelling goes on with the character the second
begins with, and the pairs for which it does are few.
-/

namespace Sierra

set_option autoImplicit false

structure Word where
  kind : Token.Kind
  lexeme : String
  legal : kind.Spells lexeme.toList

namespace Token.Kind

def Wordlike : Token.Kind → Prop
  | identifier => True
  | keyword _ => True
  | _ => False

instance (kind : Token.Kind) : Decidable kind.Wordlike :=
  match kind with
  | identifier => .isTrue trivial
  | keyword _ => .isTrue trivial
  | number => .isFalse id
  | punctuation _ => .isFalse id
  | endOfInput => .isFalse id

def Begins : Token.Kind → Char → Prop
  | number, c => Digit c
  | identifier, c => Letter c ∨ c = '_'
  | keyword _, c => Letter c
  | punctuation mark, c => mark.spelling.toList.head? = some c
  | endOfInput, _ => False

theorem begins_of_spells {kind : Token.Kind} {text : List Char} (spells : kind.Spells text) :
    ∃ first tail, text = first :: tail ∧ kind.Begins first := by
  cases kind with
  | number =>
      cases text with
      | nil => exact spells.elim
      | cons first tail => exact ⟨first, tail, rfl, spells.1⟩
  | identifier =>
      cases text with
      | nil => exact spells.1.elim
      | cons first tail => exact ⟨first, tail, rfl, spells.1.1⟩
  | keyword word =>
      obtain ⟨first, tail, same, letter, -⟩ := letters_of_keyword word
      exact ⟨first, tail, Eq.trans spells same, letter⟩
  | punctuation mark =>
      obtain ⟨first, tail, same, -⟩ := mark_character_of_spelling mark
      refine ⟨first, tail, Eq.trans spells same, ?_⟩
      rw [Begins, same]
      rfl
  | endOfInput => exact spells.elim

variable {kind : Token.Kind} {c : Char}

theorem mark_character_of_begins {mark : Mark} (begins : (punctuation mark).Begins c) :
    MarkCharacter c := by
  obtain ⟨first, tail, same, character⟩ := mark_character_of_spelling mark
  rw [Begins, same] at begins
  exact Option.some.inj begins ▸ character

theorem word_goes_on_iff (begins : kind.Begins c) :
    identifier.Continues c ↔ kind.Wordlike ∨ kind = .number := by
  cases kind with
  | number => exact iff_of_true (.inr (.inl begins)) (.inr rfl)
  | identifier =>
      refine iff_of_true ?_ (.inl trivial)
      exact begins.elim .inl fun underscore => .inr (.inr underscore)
  | keyword word => exact iff_of_true (.inl begins) (.inl trivial)
  | punctuation mark =>
      have character := mark_character_of_begins begins
      have notLetter := not_letter_of_mark c character
      have notDigit := not_digit_of_mark c character
      apply iff_of_false
      · intro goesOn
        rcases goesOn with letter | digit | underscore
        · exact notLetter (.inl letter)
        · exact notDigit digit
        · exact notLetter (.inr underscore)
      · simp [Wordlike]
  | endOfInput => exact begins.elim

theorem number_goes_on_iff (begins : kind.Begins c) :
    number.Continues c ↔ kind = .number ∨ (kind = .identifier ∧ c = '_') := by
  cases kind with
  | number => exact iff_of_true (.inl begins) (.inl rfl)
  | identifier =>
      have notDigit := not_digit_of_letter begins
      simp [Continues, notDigit]
  | keyword word =>
      have notDigit := not_digit_of_letter (.inl begins)
      have notUnderscore : c ≠ '_' := by
        intro same
        have letter : Letter '_' := same ▸ begins
        exact absurd letter (by decide)
      simp [Continues, notDigit, notUnderscore]
  | punctuation mark =>
      have character := mark_character_of_begins begins
      have notDigit := not_digit_of_mark c character
      have notUnderscore : c ≠ '_' := fun same => not_letter_of_mark c character (.inr same)
      simp [Continues, notDigit, notUnderscore]
  | endOfInput => exact begins.elim

theorem mark_of_begins (begins : kind.Begins c) (character : MarkCharacter c) :
    ∃ mark, kind = .punctuation mark := by
  cases kind with
  | number => exact absurd begins (not_digit_of_mark c character)
  | identifier => exact absurd begins (not_letter_of_mark c character)
  | keyword word => exact absurd (.inl begins) (not_letter_of_mark c character)
  | punctuation mark => exact ⟨mark, rfl⟩
  | endOfInput => exact begins.elim

theorem begins_with_iff (begins : kind.Begins c) (d : Char) (marks : List Mark)
    (character : MarkCharacter d)
    (those : ∀ mark ∈ Mark.all, mark.spelling.toList.head? = some d ↔ mark ∈ marks) :
    c = d ↔ ∃ mark ∈ marks, kind = .punctuation mark := by
  constructor
  · intro same
    subst same
    obtain ⟨mark, rfl⟩ := mark_of_begins begins character
    exact ⟨mark, (those mark mark.mem_all).mp begins, rfl⟩
  · intro found
    obtain ⟨mark, member, rfl⟩ := found
    have head := (those mark mark.mem_all).mpr member
    exact Option.some.inj (begins.symm.trans head)

theorem dot_goes_on_iff (begins : kind.Begins c) :
    (punctuation .dot).Continues c ↔ kind = .punctuation .dot ∨ kind = .punctuation .dotDot := by
  have marks := begins_with_iff begins '.' [.dot, .dotDot] (by decide) (by decide)
  simpa [Continues] using marks

theorem colon_goes_on_iff (begins : kind.Begins c) :
    (punctuation .colon).Continues c ↔ kind = .punctuation .equals := by
  have marks := begins_with_iff begins '=' [.equals] (by decide) (by decide)
  simpa [Continues] using marks

theorem not_continues_of_blank (blank : Blank c) (kind : Token.Kind) : ¬kind.Continues c := by
  have words : ¬identifier.Continues c := by
    intro goesOn
    apply not_lead_of_blank c blank
    rcases goesOn with letter | digit | underscore
    · exact .inr (.inl (.inl letter))
    · exact .inl digit
    · exact .inr (.inl (.inr underscore))
  have marks : ¬MarkCharacter c :=
    fun character => not_lead_of_blank c blank (.inr (.inr character))
  unfold Continues
  split
  · exact fun goesOn => words (.inr goesOn)
  · exact words
  · exact words
  · exact fun same => marks (same ▸ by decide)
  · exact fun same => marks (same ▸ by decide)
  · exact id

theorem stops_of_blank (blank : Blank c) (rest : List Char) (kind : Token.Kind) :
    kind.Stops (c :: rest) := by
  intro next head
  obtain rfl : c = next := by simpa using head
  exact not_continues_of_blank blank kind

end Token.Kind

/-- The ordered pairs of words that are read as something else when no gap is left between them. -/
def Fuses (first second : Word) : Prop :=
  (first.kind.Wordlike ∧ (second.kind.Wordlike ∨ second.kind = .number)) ∨
  (first.kind = .number ∧ (second.kind = .number ∨
    (second.kind = .identifier ∧ second.lexeme.toList.head? = some '_'))) ∨
  (first.kind = .punctuation .dot ∧
    (second.kind = .punctuation .dot ∨ second.kind = .punctuation .dotDot)) ∨
  (first.kind = .punctuation .colon ∧ second.kind = .punctuation .equals)

instance (first second : Word) : Decidable (Fuses first second) :=
  inferInstanceAs (Decidable (_ ∨ _))

/-- Words fuse when the first goes on with the character that the second begins with. -/
theorem fuses_iff (first second : Word) {next : Char}
    (head : second.lexeme.toList.head? = some next) :
    Fuses first second ↔ first.kind.Continues next := by
  have begins : second.kind.Begins next := by
    obtain ⟨c, tail, same, begins⟩ := Token.Kind.begins_of_spells second.legal
    rw [same] at head
    exact Option.some.inj head ▸ begins
  obtain ⟨kind, lexeme, legal⟩ := first
  unfold Fuses
  cases kind with
  | number => simp [Token.Kind.Wordlike, Token.Kind.number_goes_on_iff begins, head]
  | identifier => simp [Token.Kind.Wordlike, Token.Kind.word_goes_on_iff begins]
  | keyword word =>
      have same := Token.Kind.word_goes_on_iff begins
      simpa [Token.Kind.Wordlike, Token.Kind.Continues] using same.symm
  | punctuation mark =>
      cases mark with
      | dot => simp [Token.Kind.Wordlike, Token.Kind.dot_goes_on_iff begins]
      | colon => simp [Token.Kind.Wordlike, Token.Kind.colon_goes_on_iff begins]
      | _ => simp [Token.Kind.Wordlike, Token.Kind.Continues]
  | endOfInput => exact legal.elim

example : Fuses ⟨.punctuation .dot, ".", rfl⟩ ⟨.punctuation .dotDot, "..", rfl⟩ ∧
    ¬Fuses ⟨.punctuation .dotDot, "..", rfl⟩ ⟨.punctuation .dot, ".", rfl⟩ := by
  decide

end Sierra
