import Sierra.Proofs.Token.Tiling

/-!
# Nothing of a text is lost

A tiling puts every token at its offset in the text, in order and without overlaps, and leaves only
blanks between them. Each of its lexemes is the longest one in its place.
-/

namespace Sierra

set_option autoImplicit false

theorem bytes_cons (c : Char) (text : List Char) :
    (String.ofList (c :: text)).utf8ByteSize = c.utf8Size + (String.ofList text).utf8ByteSize := by
  rw [← List.singleton_append, String.ofList_append, String.utf8ByteSize_append,
    ← String.singleton_eq_ofList, String.utf8ByteSize_singleton]

theorem Location.step_offset (here : Location) (c : Char) :
    (here.step c).offset = here.offset + c.utf8Size := by
  unfold Location.step
  split <;> rfl

theorem Location.after_offset (here : Location) (text : List Char) :
    (here.after text).offset = here.offset + (String.ofList text).utf8ByteSize := by
  induction text generalizing here with
  | nil => simp
  | cons c text induction =>
      rw [Location.after_cons, induction, Location.step_offset, bytes_cons]
      omega

def Spelled (tokens : List Token) : Prop :=
  ∀ token ∈ tokens, token.kind.Spells token.lexeme.toList

namespace Tiles

variable {here finish : Location} {text : List Char} {tokens : List Token}

theorem finish_eq (tiles : Tiles here text tokens finish) : finish = here.after text := by
  induction tiles with
  | done => rfl
  | blank _ _ induction => exact induction
  | token _ _ _ induction => rw [induction, ← Location.after_append]

structure Stands (here : Location) (text : List Char) (token : Token) (front back : List Char) :
    Prop where
  split : text = front ++ (token.lexeme.toList ++ back)
  location : token.location = here.after front
  spells : token.kind.Spells token.lexeme.toList
  stops : token.kind.Stops back

theorem Stands.kind_ne_end {token : Token} {front back : List Char}
    (stands : Stands here text token front back) : token.kind ≠ .endOfInput := by
  intro ended
  exact (ended ▸ stands.spells : Token.Kind.Spells .endOfInput token.lexeme.toList)

theorem stands (tiles : Tiles here text tokens finish) :
    ∀ token ∈ tokens, ∃ front back, Stands here text token front back := by
  induction tiles with
  | done => simp
  | @blank here c rest tokens finish _ _ induction =>
      intro token member
      obtain ⟨front, back, stands⟩ := induction token member
      exact ⟨c :: front, back, by simp [stands.split], stands.location, stands.spells, stands.stops⟩
  | @token here kind first tail rest tokens finish spells stops _ induction =>
      intro token member
      rcases List.mem_cons.mp member with rfl | member
      · exact ⟨[], rest, by simp, rfl, by simpa using spells, stops⟩
      · obtain ⟨front, back, stands⟩ := induction token member
        refine ⟨first :: tail ++ front, back, by simp [stands.split], ?_, stands.spells,
          stands.stops⟩
        rw [Location.after_append, stands.location]

theorem spelled (tiles : Tiles here text tokens finish) : Spelled tokens := by
  intro token member
  obtain ⟨front, back, stands⟩ := tiles.stands token member
  exact stands.spells

theorem kind_ne_end (tiles : Tiles here text tokens finish) :
    ∀ token ∈ tokens, token.kind ≠ .endOfInput := by
  intro token member
  obtain ⟨front, back, stands⟩ := tiles.stands token member
  exact stands.kind_ne_end

theorem ordered (tiles : Tiles here text tokens finish) : tokens.Pairwise fun first second =>
    first.location.offset + first.lexeme.utf8ByteSize ≤ second.location.offset := by
  induction tiles with
  | done => exact .nil
  | blank _ _ induction => exact induction
  | @token here kind first tail rest tokens finish _ _ tiles induction =>
      refine .cons ?_ induction
      intro second member
      obtain ⟨front, back, stands⟩ := tiles.stands second member
      rw [stands.location, Location.after_offset, Location.after_offset]
      exact Nat.le_add_right _ _

/-- A character that is no blank lies inside a token. -/
theorem covers (tiles : Tiles here text tokens finish) : ∀ front c back, text = front ++ c :: back →
    ¬Blank c → ∃ token ∈ tokens, token.location.offset ≤ (here.after front).offset ∧
      (here.after front).offset < token.location.offset + token.lexeme.utf8ByteSize := by
  induction tiles with
  | done =>
      intro front c back same
      simp at same
  | @blank here first rest tokens finish blank _ induction =>
      intro front c back same lead
      cases front with
      | nil =>
          obtain ⟨rfl, -⟩ := List.cons.inj same
          exact absurd blank lead
      | cons other front =>
          obtain ⟨rfl, same'⟩ := List.cons.inj same
          exact induction front c back same' lead
  | @token here kind first tail rest tokens finish _ _ _ induction =>
      intro front c back same lead
      have behind : ∀ between, front = first :: tail ++ between → rest = between ++ c :: back →
          ∃ token ∈ tokens, token.location.offset ≤ (here.after front).offset ∧
            (here.after front).offset < token.location.offset + token.lexeme.utf8ByteSize := by
        intro between longer left
        rw [longer, Location.after_append]
        exact induction between c back left lead
      rcases List.append_eq_append_iff.mp same with ⟨between, longer, left⟩ |
          ⟨between, inside, left⟩
      · obtain ⟨token, member, bounds⟩ := behind between longer left
        exact ⟨token, List.mem_cons_of_mem _ member, bounds⟩
      · cases between with
        | nil =>
            obtain ⟨token, member, bounds⟩ := behind [] (by simpa using inside.symm) left.symm
            exact ⟨token, List.mem_cons_of_mem _ member, bounds⟩
        | cons d between =>
            have positive := d.utf8Size_pos
            refine ⟨_, List.mem_cons_self, ?_, ?_⟩
            · rw [Location.after_offset]
              exact Nat.le_add_right _ _
            · rw [Location.after_offset, inside, String.ofList_append, String.utf8ByteSize_append,
                bytes_cons]
              dsimp only
              omega

end Tiles

theorem tokenizing_is_lossless (text : String) (file : Option String)
    (admitted : ∀ c ∈ text.toList, Admitted c) : ∃ tokens finish,
      tokenize text file = .ok (tokens ++ [Token.endOfInput finish]) ∧
      finish.offset = text.utf8ByteSize ∧
      (∀ token ∈ tokens, token.kind ≠ .endOfInput ∧ ∃ front back : String,
        text = front ++ token.lexeme ++ back ∧ token.location.offset = front.utf8ByteSize ∧
        token.kind.Spells token.lexeme.toList ∧
        ∀ other : String, other.toList <+: (token.lexeme ++ back).toList → IsLexeme other.toList →
          other.length ≤ token.lexeme.length) ∧
      tokens.Pairwise (fun first second =>
        first.location.offset + first.lexeme.utf8ByteSize ≤ second.location.offset) ∧
      ∀ (front : String) (c : Char) (back : String), text = front ++ String.singleton c ++ back →
        ¬Blank c → ∃ token ∈ tokens, token.location.offset ≤ front.utf8ByteSize ∧
          front.utf8ByteSize < token.location.offset + token.lexeme.utf8ByteSize := by
  obtain ⟨tokens, finish, tiles, result⟩ := tokenize_tiles text file admitted
  have begins : (Location.start file).offset = 0 := rfl
  refine ⟨tokens, finish, result, ?_, ?_, tiles.ordered, ?_⟩
  · rw [tiles.finish_eq, Location.after_offset, begins, String.ofList_toList]
    omega
  · intro token member
    obtain ⟨front, back, stands⟩ := tiles.stands token member
    refine ⟨?_, String.ofList front, String.ofList back, ?_, ?_, stands.spells, ?_⟩
    · intro ending
      exact (ending ▸ stands.spells : Token.Kind.Spells .endOfInput token.lexeme.toList)
    · apply String.toList_injective
      simp [stands.split]
    · rw [stands.location, Location.after_offset, begins]
      omega
    · intro other begun lexeme
      rw [← String.length_toList, ← String.length_toList]
      exact longest_of_stops stands.spells stands.stops (by simpa using begun) lexeme
  · intro front c back same lead
    have split : text.toList = front.toList ++ c :: back.toList := by
      rw [same]
      simp
    obtain ⟨token, member, low, high⟩ := tiles.covers front.toList c back.toList split lead
    rw [Location.after_offset, begins, String.ofList_toList, Nat.zero_add] at low high
    exact ⟨token, member, low, high⟩

theorem glued_text_is_lossless :
    (∀ c ∈ "9_a1 ::=".toList, Admitted c) ∧ ∃ tokens finish,
      tokenize "9_a1 ::=" none = .ok (tokens ++ [Token.endOfInput finish]) ∧ finish.offset = 8 ∧
      tokens.Pairwise fun first second =>
        first.location.offset + first.lexeme.utf8ByteSize ≤ second.location.offset := by
  have admitted : ∀ c ∈ "9_a1 ::=".toList, Admitted c := forall_of_all (by decide)
  obtain ⟨tokens, finish, result, size, -, ordered, -⟩ :=
    tokenizing_is_lossless "9_a1 ::=" none admitted
  exact ⟨admitted, tokens, finish, result, size, ordered⟩

end Sierra
