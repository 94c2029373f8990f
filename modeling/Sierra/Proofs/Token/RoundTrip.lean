import Mathlib.Data.List.Chain
import Sierra.Proofs.Token.Fusion
import Sierra.Proofs.Token.Tiling

/-!
# Words spelled out and read back

Words are spelled out with gaps of blanks between them. The text is read back as the same words
exactly when no two neighbours fuse without a gap, because the spelling of a token and what is
behind it are determined by where the spelling stops.
-/

namespace Sierra

set_option autoImplicit false

structure Gap where
  text : String
  blank : ∀ c ∈ text.toList, Blank c

structure Piece where
  word : Word
  gap : Gap

def Piece.Apart (first second : Piece) : Prop :=
  first.gap.text = "" → ¬Fuses first.word second.word

def spelled : List Piece → String
  | [] => ""
  | piece :: pieces => piece.word.lexeme ++ piece.gap.text ++ spelled pieces

theorem to_list_spelled_cons (piece : Piece) (pieces : List Piece) :
    (spelled (piece :: pieces)).toList =
      piece.word.lexeme.toList ++ (piece.gap.text.toList ++ (spelled pieces).toList) := by
  simp [spelled]

theorem admitted_of_spelled (pieces : List Piece) : ∀ c ∈ (spelled pieces).toList, Admitted c := by
  induction pieces with
  | nil => simp [spelled]
  | cons piece pieces induction =>
      intro c member
      rw [to_list_spelled_cons, List.mem_append, List.mem_append] at member
      rcases member with inside | between | behind
      · exact admitted_of_lexeme (is_lexeme_of_spells piece.word.legal) c inside
      · exact .inl (piece.gap.blank c between)
      · exact induction c behind

/-- A word stops in front of a gap, and without one in front of a word it does not fuse with. -/
theorem stops_iff_apart (piece : Piece) (pieces : List Piece) :
    piece.word.kind.Stops (piece.gap.text.toList ++ (spelled pieces).toList) ↔
      ∀ second ∈ pieces.head?, piece.Apart second := by
  by_cases empty : piece.gap.text = ""
  · cases pieces with
    | nil => simp [empty, spelled, Token.Kind.Stops]
    | cons second pieces =>
        obtain ⟨next, tail, same, -⟩ := Token.Kind.begins_of_spells second.word.legal
        have head : second.word.lexeme.toList.head? = some next := by rw [same]; rfl
        have fuses := fuses_iff piece.word second.word head
        rw [to_list_spelled_cons, same]
        simp [empty, Token.Kind.Stops, Piece.Apart, fuses]
  · obtain ⟨c, gap, same⟩ : ∃ c gap, piece.gap.text.toList = c :: gap :=
      List.exists_cons_of_ne_nil (by simpa using empty)
    have blank : Blank c := piece.gap.blank c (by simp [same])
    have stops := Token.Kind.not_continues_of_blank blank piece.word.kind
    simp [same, Token.Kind.Stops, Piece.Apart, empty, stops]

def Token.spoken (token : Token) : Token.Kind × String :=
  (token.kind, token.lexeme)

def Word.spoken (word : Word) : Token.Kind × String :=
  (word.kind, word.lexeme)

theorem words_of_tiles_iff (pieces : List Piece) (here finish : Location) (tokens : List Token)
    (tiles : Tiles here (spelled pieces).toList tokens finish) :
    tokens.map Token.spoken = pieces.map (fun piece => piece.word.spoken) ↔
      pieces.IsChain Piece.Apart := by
  -- Each word is compared with the token that is read in its place, and these are the same when the
  -- word stops there.
  induction pieces generalizing here tokens with
  | nil =>
      rw [Tiles.tokens_of_nil tiles]
      exact iff_of_true rfl .nil
  | cons piece pieces induction =>
      rw [to_list_spelled_cons] at tiles
      obtain ⟨kind, text, rest, tokens, rfl, same, spells, stops, tiles⟩ :=
        tiles.of_lexeme (is_lexeme_of_spells piece.word.legal)
      have others : rest = piece.gap.text.toList ++ (spelled pieces).toList →
          (tokens.map Token.spoken = pieces.map (fun piece => piece.word.spoken) ↔
            pieces.IsChain Piece.Apart) := by
        intro left
        rw [left] at tiles
        exact induction _ tokens (tiles.of_gap piece.gap.blank)
      rw [List.isChain_cons, ← stops_iff_apart]
      constructor
      · intro words
        obtain ⟨first, remaining⟩ := List.cons.inj words
        obtain ⟨kinds, written⟩ : kind = piece.word.kind ∧ String.ofList text = piece.word.lexeme :=
          Prod.mk.inj first
        have left : rest = piece.gap.text.toList ++ (spelled pieces).toList := by
          rw [← written, String.toList_ofList] at same
          exact (List.append_cancel_left same).symm
        rw [← left, ← kinds]
        exact ⟨stops, (others left).mp remaining⟩
      · intro apart
        obtain ⟨kinds, whole, left⟩ :=
          stopped_unique spells piece.word.legal stops apart.1 same.symm
        have first : Token.spoken ⟨kind, String.ofList text, here⟩ = piece.word.spoken := by
          rw [Token.spoken, kinds, whole, String.ofList_toList]
          rfl
        rw [List.map_cons, List.map_cons, first, (others left).mpr apart.2]

theorem tokenizing_undoes_spelling (lead : Gap) (pieces : List Piece) (file : Option String) :
    (∃ tokens, tokenize (lead.text ++ spelled pieces) file = .ok tokens ∧
      tokens.map Token.spoken =
        pieces.map (fun piece => piece.word.spoken) ++ [(.endOfInput, "")]) ↔
      pieces.IsChain Piece.Apart := by
  have admitted : ∀ c ∈ (lead.text ++ spelled pieces).toList, Admitted c := by
    intro c member
    rw [String.toList_append, List.mem_append] at member
    exact member.elim (fun between => .inl (lead.blank c between)) (admitted_of_spelled pieces c)
  obtain ⟨tokens, finish, tiles, result⟩ := tokenize_tiles _ file admitted
  rw [String.toList_append] at tiles
  rw [← words_of_tiles_iff pieces _ finish tokens (tiles.of_gap lead.blank), result]
  constructor
  · intro found
    obtain ⟨all, same, words⟩ := found
    obtain rfl := Except.ok.inj same
    rw [List.map_append] at words
    exact List.append_cancel_right words
  · intro words
    refine ⟨_, rfl, ?_⟩
    rw [List.map_append, words]
    rfl

example : (tokenize "9abc...::=" none).map (fun tokens => tokens.map Token.spoken) =
    .ok [(.number, "9"), (.identifier, "abc"), (.punctuation .dotDot, ".."),
      (.punctuation .dot, "."), (.punctuation .colon, ":"), (.punctuation .colonEquals, ":="),
      (.endOfInput, "")] := by
  rfl

end Sierra
