import Sierra.Proofs.Token.Lossless

/-!
# Reading on behind stray characters

A character outside the alphabet parts a text. What stands in front of it is read as if the text
ended there, and what stands behind it as if a text began there. The calls of a lexer report the
stray characters one after another, and the tokens of all parts are kept until the call that reaches
the end of the text.
-/

namespace Sierra

set_option autoImplicit false

/-- The errors for the stray characters of a text, in the order of the text. -/
def strays (here : Location) : List Char → List Error
  | [] => []
  | c :: rest =>
    if Admitted c then strays (here.step c) rest
    else ⟨.strayCharacter c, here⟩ :: strays (here.step c) rest

/-- A text of which every part between stray characters is tiled. -/
inductive Parted : Location → List Char → List Token → Prop where
  | last {here text tokens finish} : Tiles here text tokens finish → Parted here text tokens
  | stray {here front tokens finish c back others} :
      Tiles here front tokens finish → ¬Admitted c → Parted (finish.step c) back others →
      Parted here (front ++ c :: back) (tokens ++ others)

/-- What `times` calls in a row answer: the errors one by one, then all tokens with the end behind
them, and then only the end. -/
def answers (tokens : List Token) (ending : Token) :
    Nat → List Error → List (Except Error (List Token))
  | 0, _ => []
  | times + 1, error :: errors => .error error :: answers tokens ending times errors
  | times + 1, [] => .ok (tokens ++ [ending]) :: List.replicate times (.ok [ending])

theorem answers_injective {tokens other : List Token} {ending : Token} {errors : List Error}
    (same : answers tokens ending (errors.length + 1) errors =
      answers other ending (errors.length + 1) errors) : tokens = other := by
  induction errors with
  | nil =>
      have answer := Except.ok.inj (List.cons.inj same).1
      exact List.append_cancel_right answer
  | cons error errors induction => exact induction (List.cons.inj same).2

theorem strays_of_admitted {text : List Char} (admitted : ∀ c ∈ text, Admitted c)
    (here : Location) (behind : List Char) :
    strays here (text ++ behind) = strays (here.after text) behind := by
  induction text generalizing here with
  | nil => rfl
  | cons c text induction =>
      rw [List.cons_append, strays, if_pos (admitted c (by simp))]
      exact induction (fun d member => admitted d (by simp [member])) (here.step c)

theorem strays_eq_nil_iff (here : Location) (text : List Char) :
    strays here text = [] ↔ ∀ c ∈ text, Admitted c := by
  induction text generalizing here with
  | nil => simp [strays]
  | cons c text induction =>
      rw [strays]
      by_cases admitted : Admitted c
      · simp [admitted, induction]
      · simp [admitted]

theorem front_of_stray {c : Char} (outside : ¬Admitted c) (rest : List Char) :
    Front.ofText c rest = .stray := by
  have notBlank : ¬Alphabet.isBlank c = true :=
    fun blank => outside (.inl ((is_blank_iff c).mp blank))
  have notDigit : ¬Alphabet.beginsNumber c = true :=
    fun digit => outside (.inr (.inr (.inl ((is_digit_iff c).mp digit))))
  have notLetter : ¬Alphabet.beginsWord c = true := by
    intro begins
    rcases (begins_word_iff c).mp begins with letter | underscore
    · exact outside (.inr (.inl letter))
    · exact outside (.inr (.inr (.inr (.inl underscore))))
  have notMark : Alphabet.mark? c rest.head? = none := by
    have character : ¬MarkCharacter c := fun mark => outside (.inr (.inr (.inr (.inr mark))))
    simp only [MarkCharacter, List.mem_cons, List.not_mem_nil, not_or] at character
    unfold Alphabet.mark?
    split <;> simp_all
  rw [Front.ofText, if_neg notBlank, if_neg notDigit, if_neg notLetter, notMark]

namespace Lexer

theorem scan_stray {c : Char} (outside : ¬Admitted c) (held : List Token) (here : Location)
    (rest : List Char) : scan held here 0 (c :: rest) =
      (.error ⟨.strayCharacter c, here⟩, ⟨rest, here.step c, held⟩) := by
  have line : ∀ d ∈ [c], d ≠ '\n' := by
    intro d member newline
    obtain rfl := List.mem_singleton.mp member
    exact outside (newline ▸ by decide)
  have located : (here.step c).back 1 here.offset = here := Location.back_after line here
  rw [scan, front_of_stray outside]
  simp only [located]

/-- At the end of the text nothing is held any more, and the end itself does not move. -/
theorem tokenize_times_at_end (times : Nat) (here : Location) :
    tokenizeTimes times ⟨[], here, []⟩ = List.replicate times (.ok [Token.endOfInput here]) := by
  induction times with
  | zero => rfl
  | succ times induction =>
      have answer : tokenize ⟨[], here, []⟩ = (.ok [Token.endOfInput here], ⟨[], here, []⟩) :=
        scan_end [] here
      rw [tokenizeTimes, answer]
      exact congrArg _ induction

end Lexer

namespace Parted

variable {here : Location} {text : List Char} {tokens : List Token}

/-- What the calls of a lexer answer, whatever it holds when it comes to the text. -/
theorem tokenize_times (parted : Parted here text tokens) (held : List Token) (times : Nat) :
    Lexer.tokenizeTimes times ⟨text, here, held⟩ = answers (held.reverse ++ tokens)
      (Token.endOfInput (here.after text)) times (strays here text) := by
  induction parted generalizing held times with
  | @last here text tokens finish tiles =>
      have none : strays here text = [] :=
        (strays_eq_nil_iff here text).mpr (admitted_of_tiles tiles)
      have answer : Lexer.tokenize ⟨text, here, held⟩ = _ := Lexer.scan_whole tiles held
      cases times with
      | zero => rfl
      | succ times =>
          rw [Lexer.tokenizeTimes, answer, none, ← tiles.finish_eq]
          exact congrArg _ (Lexer.tokenize_times_at_end times finish)
  | @stray here front tokens finish c back others tiles outside _ induction =>
      have first : strays here (front ++ c :: back) =
          ⟨.strayCharacter c, finish⟩ :: strays (finish.step c) back := by
        rw [strays_of_admitted (admitted_of_tiles tiles), ← tiles.finish_eq, strays,
          if_neg outside]
      have answer : Lexer.tokenize ⟨front ++ c :: back, here, held⟩ =
          (.error ⟨.strayCharacter c, finish⟩,
            ⟨back, finish.step c, tokens.reverse ++ held⟩) := by
        have apart := stops_of_stray outside back
        exact (Lexer.scan_tiled tiles held apart).trans (Lexer.scan_stray outside _ finish back)
      have finish' : here.after (front ++ c :: back) = (finish.step c).after back := by
        rw [Location.after_append, ← tiles.finish_eq, Location.after_cons]
      cases times with
      | zero => rfl
      | succ times =>
          have later := induction (tokens.reverse ++ held) times
          rw [List.reverse_append, List.reverse_reverse, List.append_assoc] at later
          rw [Lexer.tokenizeTimes, answer, first, finish', answers]
          exact congrArg _ later

theorem unique {other : List Token} (parted : Parted here text tokens)
    (parted' : Parted here text other) : other = tokens := by
  have calls := parted.tokenize_times [] ((strays here text).length + 1)
  rw [parted'.tokenize_times] at calls
  exact answers_injective calls

end Parted

/-- The part in front of the first stray character is tiled, and what is behind it is shorter. -/
theorem exists_parted (here : Location) (text : List Char) : ∃ tokens, Parted here text tokens := by
  induction length : text.length using Nat.strongRecOn generalizing here text with
  | _ size induction =>
  let front := text.takeWhile fun c => decide (Admitted c)
  have inside : ∀ c ∈ front, Admitted c := fun c member =>
    of_decide_eq_true (List.all_eq_true.mp List.all_takeWhile c member)
  obtain ⟨tokens, finish, tiles⟩ := exists_tiles here front inside
  have split : text = front ++ text.dropWhile fun c => decide (Admitted c) :=
    List.takeWhile_append_dropWhile.symm
  cases behind : text.dropWhile fun c => decide (Admitted c) with
  | nil =>
      rw [behind, List.append_nil] at split
      exact ⟨tokens, .last (split ▸ tiles)⟩
  | cons c back =>
      rw [behind] at split
      have outside : ¬Admitted c := by
        have head := List.head?_dropWhile_not (fun c => decide (Admitted c)) text
        rw [behind] at head
        simpa using head
      have shorter : back.length < size := by
        have lengths := congrArg List.length split
        simp only [List.length_append, List.length_cons] at lengths
        omega
      obtain ⟨others, parted⟩ := induction _ shorter (finish.step c) back rfl
      rw [split]
      exact ⟨_, .stray tiles outside parted⟩

theorem tokenize_eq (text : String) (file : Option String) :
    (Lexer.ofText text file).tokenizeTimes 1 = [tokenize text file] := rfl

theorem tiles_of_tokenize {text : String} {file : Option String} {tokens : List Token}
    (reply : tokenize text file = .ok tokens) : ∃ tiling finish,
      Tiles (Location.start file) text.toList tiling finish ∧
      tokens = tiling ++ [Token.endOfInput finish] := by
  obtain ⟨parts, parted⟩ := exists_parted (Location.start file) text.toList
  have first : [tokenize text file] = _ := parted.tokenize_times [] 1
  rw [reply] at first
  cases errors : strays (Location.start file) text.toList with
  | nil =>
      obtain ⟨tiling, finish, tiles, reads⟩ :=
        tokenize_tiles text file ((strays_eq_nil_iff _ _).mp errors)
      exact ⟨tiling, finish, tiles, Except.ok.inj (reply.symm.trans reads)⟩
  | cons error errors' => simp [errors, answers] at first

theorem tokenize_fails_iff (text : String) (file : Option String) :
    (∃ error, tokenize text file = .error error) ↔ ∃ c ∈ text.toList, ¬Admitted c := by
  constructor
  · rintro ⟨error, failed⟩
    apply Classical.byContradiction
    intro none
    have admitted : ∀ c ∈ text.toList, Admitted c := fun c member =>
      Decidable.byContradiction fun stray => none ⟨c, member, stray⟩
    obtain ⟨tokens, finish, -, reply⟩ := tokenize_tiles text file admitted
    simp [reply] at failed
  · rintro ⟨c, member, stray⟩
    cases reply : tokenize text file with
    | error error => exact ⟨error, rfl⟩
    | ok tokens =>
        obtain ⟨_, _, tiles, -⟩ := tiles_of_tokenize reply
        exact absurd (admitted_of_tiles tiles c member) stray

theorem resuming_loses_nothing (text : String) (file : Option String) : ∃ tokens,
    (∀ other, Parted (Location.start file) text.toList other ↔ other = tokens) ∧
    (∀ times, (Lexer.ofText text file).tokenizeTimes times = answers tokens
      (Token.endOfInput ((Location.start file).after text.toList)) times
      (strays (Location.start file) text.toList)) ∧
    (∀ error, tokenize text file = .error error ↔
      (strays (Location.start file) text.toList).head? = some error) ∧
    ((∃ error, tokenize text file = .error error) ↔ ∃ c ∈ text.toList, ¬Admitted c) := by
  let here := Location.start file
  obtain ⟨tokens, parted⟩ := exists_parted here text.toList
  have calls : ∀ times, (Lexer.ofText text file).tokenizeTimes times = answers tokens
      (Token.endOfInput (here.after text.toList)) times (strays here text.toList) :=
    fun times => parted.tokenize_times [] times
  have fresh : ∀ error, tokenize text file = .error error ↔
      (strays here text.toList).head? = some error := by
    intro error
    have first := calls 1
    rw [tokenize_eq] at first
    cases errors : strays here text.toList with
    | nil => simp_all [answers]
    | cons other errors => simp_all [answers]
  exact ⟨tokens, fun other => ⟨parted.unique, fun same => same ▸ parted⟩, calls, fresh,
    tokenize_fails_iff text file⟩

example : (Lexer.ofText "aé1" none).tokenizeTimes 3 =
    [.error ⟨.strayCharacter 'é', ⟨1, 2, 1, none⟩⟩,
      .ok [⟨.identifier, "a", ⟨1, 1, 0, none⟩⟩, ⟨.number, "1", ⟨1, 3, 3, none⟩⟩,
        .endOfInput ⟨1, 4, 4, none⟩],
      .ok [.endOfInput ⟨1, 4, 4, none⟩]] := by
  rfl

end Sierra
