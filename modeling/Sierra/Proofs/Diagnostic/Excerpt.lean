import Sierra.Diagnostic
import Sierra.Proofs.Text.Lines

/-!
# Excerpts without colours

An excerpt shows a line with the lines next to it, all numbers in a column of one width, and a caret
row behind the line itself. It is there whenever the source has the line. The caret row is one space
too short for its caret to stand below the column that the error names.
-/

namespace Sierra.Diagnostic

set_option autoImplicit false

open Sierra.Text (IsLine)

def gutter (pad number : Nat) : String :=
  "  " ++ Text.spaces pad ++ toString number ++ " "

/-- The row of a line, its number to the right in a column of the width. -/
def IsRow (width number : Nat) (line : List Char) (row : String) : Prop :=
  ∃ pad, pad + (toString number).length = width ∧
    row = gutter pad number ++ String.ofList line ++ "\n"

/-- The row of the line with the number, or nothing if the source has no such line. -/
def Shows (source : String) (width number : Nat) (shown : String) : Prop :=
  (∃ line, IsLine source.toList number line ∧ IsRow width number line shown) ∨
    ((∀ line, ¬IsLine source.toList number line) ∧ shown = "")

def context (coloured : Bool) (source : String) (location : Location) : String :=
  String.join ((excerpt (Text.lines source.toList) location).map (·.render coloured))

def neighbourText (coloured : Bool) (source : String) (width number : Nat) : String :=
  String.join ((neighbour (Text.lines source.toList) width number).map (·.render coloured))

theorem render_with_source (error : Error) (source : String) (coloured : Bool) :
    (Diagnostic.mk error (some source)).render coloured =
      (Diagnostic.mk error none).render coloured ++ context coloured source error.location := by
  simp [paint, rows, context, String.append_assoc]

section Rows

variable {width number : Nat}

theorem length_gutter (pad number : Nat) :
    (gutter pad number).length = pad + (toString number).length + 3 := by
  have two : "  ".length = 2 := rfl
  have one : " ".length = 1 := rfl
  simp only [gutter, String.length_append, Text.length_spaces, two, one]
  omega

/-- A number has no more digits than a larger one. -/
theorem number_fits (number line : Nat) (least : number ≤ line + 1) :
    (toString number).length ≤ numberWidth line := by
  have digits : 0 < (toString (line + 1)).length := Nat.length_repr_pos
  exact (Nat.length_repr_le_iff digits).mpr
    (Nat.lt_of_le_of_lt least ((Nat.length_repr_le_iff digits).mp (Nat.le_refl _)))

theorem numbered_is_row (style : Style) (text : List Char)
    (fits : (toString number).length ≤ width) :
    IsRow width number text ((numbered style width number text).render false) := by
  refine ⟨width - (toString number).length, Nat.sub_add_cancel fits, ?_⟩
  simp [numbered, Row.paint, ansi_escapes.paint_off, Text.align_right_eq, gutter,
    String.append_assoc]

theorem caret_row (width column : Nat) :
    (caret width column).render false = Text.spaces (width + 2 + (column - 1)) ++ "^\n" := by
  simp [caret, Row.paint, ansi_escapes.paint_off, String.append_assoc]

theorem neighbour_shows {source : String} (some : source ≠ "")
    (fits : (toString number).length ≤ width) :
    Shows source width number (neighbourText false source width number) := by
  have text : source.toList ≠ [] := by simpa using some
  unfold neighbourText neighbour
  cases found : Text.lineAt (Text.lines source.toList) number with
  | none =>
      refine .inr ⟨?_, rfl⟩
      intro line stands
      simp [(Text.line_at_iff text number line).mpr stands] at found
  | some line =>
      refine .inl ⟨line, (Text.line_at_iff text number line).mp found, ?_⟩
      simpa using numbered_is_row .number line fits

end Rows

/-- An excerpt around a line, with so many spaces in front of the caret. -/
def IsExcerpt (source : String) (width number : Nat) (line : List Char) (blanks : Nat)
    (shown : String) : Prop :=
  ∃ before row after, Shows source width (number - 1) before ∧ IsRow width number line row ∧
    Shows source width (number + 1) after ∧
    shown = before ++ row ++ (Text.spaces blanks ++ "^\n") ++ after

theorem context_eq {source : String} {location : Location} {line : List Char} (some : source ≠ "")
    (stands : IsLine source.toList location.line line) (coloured : Bool) :
    context coloured source location =
      neighbourText coloured source (numberWidth location.line) (location.line - 1) ++
      (numbered .pointer (numberWidth location.line) location.line line).render coloured ++
      (caret (numberWidth location.line) location.column).render coloured ++
      neighbourText coloured source (numberWidth location.line) (location.line + 1) := by
  have found := (Text.line_at_iff (by simpa using some) location.line line).mpr stands
  simp [context, excerpt, neighbourText, found, String.append_assoc]

theorem context_of_line {source : String} {location : Location} {line : List Char}
    (some : source ≠ "") (stands : IsLine source.toList location.line line) :
    IsExcerpt source (numberWidth location.line) location.line line
      (numberWidth location.line + 2 + (location.column - 1)) (context false source location) := by
  have before := neighbour_shows some (number_fits (location.line - 1) location.line (by omega))
  have row := numbered_is_row .pointer line
    (number_fits location.line location.line (Nat.le_succ _))
  have after := neighbour_shows some
    (number_fits (location.line + 1) location.line (Nat.le_refl _))
  refine ⟨_, _, _, before, row, after, ?_⟩
  rw [context_eq some stands, caret_row]

theorem line_of_range {source : String} {number : Nat} (first : 1 ≤ number)
    (last : number ≤ (Text.lines source.toList).length) :
    source ≠ "" ∧ ∃ line, IsLine source.toList number line := by
  have some : source ≠ "" := by
    rintro rfl
    exact absurd last (Nat.not_le.mpr first)
  have text : source.toList ≠ [] := by simpa using some
  refine ⟨some, ?_⟩
  obtain ⟨index, rfl⟩ := Nat.exists_eq_add_of_le' first
  have found := List.getElem?_eq_getElem (Nat.lt_of_succ_le last)
  exact ⟨_, (Text.line_at_iff text (index + 1) _).mp found⟩

/-- The rows that the source adds to a diagnostic: the line before if there is one, the line of the
error behind its gutter, the caret row with so many spaces, and what follows. -/
def Draws (error : Error) (source : String) (line : List Char) (pad blanks : Nat) : Prop :=
  IsLine source.toList error.location.line line ∧ ∃ before after,
    Shows source (pad + (toString error.location.line).length) (error.location.line - 1) before ∧
    (Diagnostic.mk error (some source)).render false =
      (Diagnostic.mk error none).render false ++ before ++
        (gutter pad error.location.line ++ String.ofList line ++ "\n") ++
        (Text.spaces blanks ++ "^\n") ++ after

def CaretBelow (error : Error) (source : String) : Prop :=
  ∃ line pad, Draws error source line pad
    ((gutter pad error.location.line).length + (error.location.column - 1))

theorem caret_is_left_of_column (error : Error) (source : String)
    (first : 1 ≤ error.location.line)
    (last : error.location.line ≤ (Text.lines source.toList).length) :
    ∃ line pad blanks, Draws error source line pad blanks ∧
      blanks + 1 = (gutter pad error.location.line).length + (error.location.column - 1) := by
  obtain ⟨some, line, stands⟩ := line_of_range first last
  obtain ⟨before, _, after, shows, ⟨pad, width, rfl⟩, -, shown⟩ := context_of_line some stands
  rw [← width] at shows
  refine ⟨line, pad, numberWidth error.location.line + 2 + (error.location.column - 1), ?_, ?_⟩
  · refine ⟨stands, before, after, shows, ?_⟩
    rw [render_with_source, shown]
    simp only [String.append_assoc]
  · rw [length_gutter, ← width]
    omega

def strayDollar : Error :=
  ⟨.strayCharacter '$', ⟨1, 6, 5, none⟩⟩

theorem caret_is_left_of_dollar :
    1 ≤ strayDollar.location.line ∧
    strayDollar.location.line ≤ (Text.lines "use a$b;".toList).length ∧
    ∃ line pad blanks, Draws strayDollar "use a$b;" line pad blanks ∧
      blanks + 1 = (gutter pad strayDollar.location.line).length +
        (strayDollar.location.column - 1) := by
  have last : strayDollar.location.line ≤ (Text.lines "use a$b;".toList).length := by
    decide +kernel
  exact ⟨by decide, last, caret_is_left_of_column strayDollar "use a$b;" (by decide) last⟩

/-- In front of the caret for this `$` there are only eight spaces. -/
theorem caret_is_not_below_dollar :
    1 ≤ strayDollar.location.line ∧
    strayDollar.location.line ≤ (Text.lines "use a$b;".toList).length ∧
    1 ≤ strayDollar.location.column ∧ ¬CaretBelow strayDollar "use a$b;" := by
  refine ⟨by decide, by decide +kernel, by decide, ?_⟩
  rintro ⟨line, pad, -, before, after, -, shown⟩
  have wide : (gutter pad strayDollar.location.line).length + (strayDollar.location.column - 1) =
      pad + 9 := length_gutter pad 1 ▸ rfl
  have nine : List.replicate 9 ' ' ++ ['^'] <:+:
      ((Diagnostic.mk strayDollar (some "use a$b;")).render false).toList := by
    rw [shown, wide]
    refine ⟨((Diagnostic.mk strayDollar none).render false).toList ++ before.toList ++
      (gutter pad 1 ++ String.ofList line ++ "\n").toList ++ List.replicate pad ' ',
      '\n' :: after.toList, ?_⟩
    simp [Text.spaces, List.replicate_add, strayDollar]
  exact absurd nine (by decide +kernel)

end Sierra.Diagnostic
