import Sierra.Proofs.Token.Resuming
import Sierra.Proofs.Tree.Relocation

/-!
# Reading a text at another place

A text that is read from another location on, say as part of another file or behind other text, is
read into the same tokens, each of them moved as the location is from which reading starts. All that
is needed of the move is that it goes along with reading a character.
-/

namespace Sierra

set_option autoImplicit false

namespace Location

def Rigid (move : Location → Location) : Prop :=
  ∀ here c, move (here.step c) = (move here).step c

def stamp (file : String) (here : Location) : Location :=
  { here with file := some file }

/-- The place that many lines and bytes further on, in the same column. -/
def shift (lines bytes : Nat) (here : Location) : Location :=
  { here with line := here.line + lines, offset := here.offset + bytes }

theorem stamp_rigid (file : String) : Rigid (stamp file) := by
  intro here c
  unfold step
  split <;> rfl

theorem shift_rigid (lines bytes : Nat) : Rigid (shift lines bytes) := by
  intro here c
  unfold step shift
  split
  · simp only [Nat.add_right_comm]
  · simp only [Nat.add_right_comm]

theorem Rigid.after {move : Location → Location} (rigid : Rigid move) (here : Location)
    (text : List Char) : move (here.after text) = (move here).after text := by
  induction text generalizing here with
  | nil => rfl
  | cons c text induction => rw [after_cons, induction, rigid, after_cons]

end Location

variable {move : Location → Location} {here finish : Location} {text : List Char}
  {tokens : List Token}

theorem Tiles.relocate (rigid : Location.Rigid move) (tiles : Tiles here text tokens finish) :
    Tiles (move here) text (tokens.map (Token.relocate move)) (move finish) := by
  induction tiles with
  | done => exact .done
  | blank blank _ induction =>
      rw [rigid] at induction
      exact .blank blank induction
  | token spells stops _ induction =>
      rw [rigid.after] at induction
      exact .token spells stops induction

/-- A lexer may have tokens of its own when it comes to the text. -/
theorem Lexer.scan_relocate (rigid : Location.Rigid move) (held : List Token) (here : Location)
    (text : List Char) : (scan held (move here) 0 text).1 =
      relocateAnswer move (fun tokens => held.reverse ++ tokens.map (Token.relocate move))
        (scan [] here 0 text).1 := by
  obtain ⟨tokens, parted⟩ := exists_parted here text
  cases parted with
  | last tiles =>
      rw [scan_whole tiles, scan_whole (tiles.relocate rigid)]
      simp [relocateAnswer, Token.relocate, Token.endOfInput]
  | @stray _ front tokens finish c back others tiles outside _ =>
      have apart := stops_of_stray outside back
      rw [scan_tiled tiles _ apart, scan_tiled (tiles.relocate rigid) _ apart, scan_stray outside,
        scan_stray outside]
      rfl

theorem tokenize_relocate (rigid : Location.Rigid move) {file file' : Option String}
    (start : move (Location.start file) = Location.start file') (text : String) :
    tokenize text file' =
      relocateAnswer move (List.map (Token.relocate move)) (tokenize text file) := by
  have reads := Lexer.scan_relocate rigid [] (Location.start file) text.toList
  rw [start] at reads
  exact reads

end Sierra
