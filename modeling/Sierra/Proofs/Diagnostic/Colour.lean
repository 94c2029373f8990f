import Sierra.Proofs.Diagnostic.Excerpt
import Sierra.Proofs.Messages

/-!
# Colours add nothing but colours

A coloured text is the bare one with sequences around some pieces of it. No piece reaches over the
end of a line or has an escape character, and none has another one inside. From such a text the
sequences can be deleted again, and each that begins a style is ended on its line. All rows of a
diagnostic are coloured so, since their columns are filled up before they are coloured.
-/

namespace Sierra

set_option autoImplicit false

namespace Style

def openings : List String :=
  ["\x1b[1;31m", "\x1b[1;34m", "\x1b[34m"]

def closing : String :=
  "\x1b[0m"

def sequences : List (List Char) :=
  (closing :: openings).map String.toList

end Style

open Style (openings closing sequences)

section Sequences

def EscapeFree (text : String) : Prop :=
  '\x1b' ∉ text.toList

/-- The text without its sequences. The number counts the characters that are left of the sequence
that is being deleted. -/
def strip : Nat → List Char → List Char
  | _, [] => []
  | left + 1, _ :: rest => strip left rest
  | 0, c :: rest =>
      match sequences.find? (·.isPrefixOf (c :: rest)) with
      | some sequence => strip (sequence.length - 1) rest
      | none => c :: strip 0 rest

def uncolour (text : String) : String :=
  String.ofList (strip 0 text.toList)

/-- Behind each sequence that begins a style the one that ends it comes first of all sequences, and
on the same line. -/
def Closed (text : String) : Prop :=
  ∀ opening ∈ openings, ∀ front back : String, text = front ++ opening ++ back →
    ∃ inner rest : String, back = inner ++ closing ++ rest ∧
      '\x1b' ∉ inner.toList ∧ '\n' ∉ inner.toList

/-- A bare text and a coloured one. -/
inductive Dyed : List Char → List Char → Prop where
  | done : Dyed [] []
  | plain {c : Char} {bare dyed : List Char} :
      c ≠ '\x1b' → Dyed bare dyed → Dyed (c :: bare) (c :: dyed)
  | styled {opening : String} {inner bare dyed : List Char} :
      opening ∈ openings → '\x1b' ∉ inner → '\n' ∉ inner → Dyed bare dyed →
      Dyed (inner ++ bare) (opening.toList ++ (inner ++ (closing.toList ++ dyed)))

namespace Dyed

variable {bare bare' dyed dyed' : List Char}

theorem append (first : Dyed bare dyed) (second : Dyed bare' dyed') :
    Dyed (bare ++ bare') (dyed ++ dyed') := by
  induction first with
  | done => exact second
  | plain other _ induction => exact .plain other induction
  | styled opens escape feed _ induction =>
      simpa only [List.append_assoc] using styled opens escape feed induction

theorem alone {text : List Char} (without : '\x1b' ∉ text) : Dyed text text := by
  induction text with
  | nil => exact .done
  | cons c text induction =>
      rw [List.mem_cons, not_or] at without
      exact .plain (Ne.symm without.1) (induction without.2)

end Dyed

/-- A sequence is an escape character with none behind it. -/
theorem shape_of_sequence : ∀ sequence ∈ sequences,
    ∃ tail, sequence = '\x1b' :: tail ∧ '\x1b' ∉ tail := by
  simp [sequences, openings, closing]

theorem opening_mem {opening : String} (opens : opening ∈ openings) :
    opening.toList ∈ sequences :=
  List.mem_map_of_mem (List.mem_cons_of_mem _ opens)

theorem closing_mem : closing.toList ∈ sequences :=
  List.mem_map_of_mem List.mem_cons_self

theorem closing_ne_opening : ∀ opening ∈ openings, closing.toList ≠ opening.toList := by
  decide

section Unique

variable {sequence sequence' front back rest : List Char}

/-- No sequence begins another one. -/
theorem sequences_apart : ∀ sequence ∈ sequences, ∀ sequence' ∈ sequences,
    sequence <+: sequence' → sequence = sequence' := by
  decide

theorem sequence_unique (member : sequence ∈ sequences) (member' : sequence' ∈ sequences)
    (same : sequence ++ rest = sequence' ++ back) : sequence = sequence' := by
  have first : sequence <+: sequence ++ rest := List.prefix_append sequence rest
  have second : sequence' <+: sequence ++ rest := same ▸ List.prefix_append sequence' back
  rcases List.prefix_or_prefix_of_prefix first second with shorter | longer
  · exact sequences_apart sequence member sequence' member' shorter
  · exact (sequences_apart sequence' member' sequence member longer).symm

/-- A sequence does not begin where there is no escape character. -/
theorem behind_piece {piece : List Char} (without : '\x1b' ∉ piece)
    (member : sequence ∈ sequences) (same : piece ++ rest = front ++ (sequence ++ back)) :
    ∃ later, rest = later ++ (sequence ++ back) := by
  rcases List.append_eq_append_iff.mp same with ⟨between, -, left⟩ | ⟨between, inside, left⟩
  · exact ⟨between, left⟩
  · cases between with
    | nil => exact ⟨[], by simpa using left.symm⟩
    | cons c between =>
        obtain ⟨tail, rfl, -⟩ := shape_of_sequence sequence member
        obtain ⟨rfl, -⟩ := List.cons.inj left
        exact absurd (by simp [inside]) without

/-- A sequence is the one that stands in its place, and no other begins inside of it. -/
theorem sequence_cases (member : sequence ∈ sequences) (member' : sequence' ∈ sequences)
    (same : sequence ++ rest = front ++ (sequence' ++ back)) :
    (sequence = sequence' ∧ rest = back) ∨ ∃ later, rest = later ++ (sequence' ++ back) := by
  cases front with
  | nil =>
      obtain rfl := sequence_unique member member' same
      exact .inl ⟨rfl, List.append_cancel_left same⟩
  | cons c front =>
      obtain ⟨tail, rfl, without⟩ := shape_of_sequence sequence member
      exact .inr (behind_piece without member' (List.cons.inj same).2)

end Unique

section Strip

theorem find_sequence {sequence : List Char} (member : sequence ∈ sequences) (rest : List Char) :
    sequences.find? (·.isPrefixOf (sequence ++ rest)) = some sequence := by
  cases found : sequences.find? (·.isPrefixOf (sequence ++ rest)) with
  | none =>
      have missing := List.find?_eq_none.mp found sequence member
      exact absurd (List.isPrefixOf_iff_prefix.mpr (List.prefix_append sequence rest)) missing
  | some other =>
      have begins := List.find?_some found
      obtain ⟨behind, same⟩ := List.isPrefixOf_iff_prefix.mp begins
      rw [sequence_unique (List.mem_of_find?_eq_some found) member same]

theorem strip_left (tail rest : List Char) : strip tail.length (tail ++ rest) = strip 0 rest := by
  induction tail with
  | nil => rfl
  | cons c tail induction => exact induction

theorem strip_sequence {sequence : List Char} (member : sequence ∈ sequences) (rest : List Char) :
    strip 0 (sequence ++ rest) = strip 0 rest := by
  have found := find_sequence member rest
  obtain ⟨tail, rfl, -⟩ := shape_of_sequence sequence member
  rw [List.cons_append] at found ⊢
  rw [strip, found]
  exact strip_left tail rest

theorem strip_plain {c : Char} (other : c ≠ '\x1b') (rest : List Char) :
    strip 0 (c :: rest) = c :: strip 0 rest := by
  have missing : sequences.find? (·.isPrefixOf (c :: rest)) = none := by
    rw [List.find?_eq_none]
    intro sequence member
    obtain ⟨tail, rfl, -⟩ := shape_of_sequence sequence member
    simp [Ne.symm other]
  rw [strip, missing]

theorem strip_piece {piece : List Char} (without : '\x1b' ∉ piece) (rest : List Char) :
    strip 0 (piece ++ rest) = piece ++ strip 0 rest := by
  induction piece with
  | nil => rfl
  | cons c piece induction =>
      rw [List.mem_cons, not_or] at without
      rw [List.cons_append, strip_plain (Ne.symm without.1), induction without.2, List.cons_append]

end Strip

namespace Dyed

variable {bare dyed : List Char}

theorem strip_eq (dyeing : Dyed bare dyed) : strip 0 dyed = bare := by
  induction dyeing with
  | done => rfl
  | plain other _ induction => rw [strip_plain other, induction]
  | styled opens escape _ _ induction =>
      rw [strip_sequence (opening_mem opens), strip_piece escape, strip_sequence closing_mem,
        induction]

theorem bare_without (dyeing : Dyed bare dyed) : '\x1b' ∉ bare := by
  induction dyeing with
  | done => exact List.not_mem_nil
  | plain other _ induction => exact List.not_mem_cons_of_ne_of_not_mem (Ne.symm other) induction
  | styled _ escape _ _ induction =>
      exact fun member => (List.mem_append.mp member).elim escape induction

/-- Each sequence that begins a style stands in front of a piece and the sequence that ends it. -/
theorem closed (dyeing : Dyed bare dyed) {opening : String} (opens : opening ∈ openings)
    (front back : List Char) (same : dyed = front ++ (opening.toList ++ back)) :
    ∃ inner rest, back = inner ++ (closing.toList ++ rest) ∧ '\x1b' ∉ inner ∧ '\n' ∉ inner := by
  have member := opening_mem opens
  induction dyeing generalizing front with
  | done =>
      obtain ⟨tail, shape, -⟩ := shape_of_sequence _ member
      simp [shape] at same
  | @plain c bare dyed other _ induction =>
      have without : '\x1b' ∉ [c] := by simpa using Ne.symm other
      have split : [c] ++ dyed = front ++ (opening.toList ++ back) := same
      obtain ⟨later, left⟩ := behind_piece without member split
      exact induction later left
  | @styled opening' inner bare dyed opens' escape feed _ induction =>
      rcases sequence_cases (opening_mem opens') member same with ⟨-, left⟩ | ⟨later, left⟩
      · exact ⟨inner, dyed, left.symm, escape, feed⟩
      · obtain ⟨later', left'⟩ := behind_piece escape member left
        rcases sequence_cases closing_mem member left' with ⟨absurdity, -⟩ | ⟨later'', left''⟩
        · exact absurd absurdity (closing_ne_opening opening opens)
        · exact induction later'' left''

theorem join {α : Type} {values : List α} {write write' : α → String}
    (each : ∀ value ∈ values, Dyed (write value).toList (write' value).toList) :
    Dyed (String.join (values.map write)).toList (String.join (values.map write')).toList := by
  induction values with
  | nil => exact .done
  | cons value values induction =>
      rw [List.forall_mem_cons] at each
      simp only [List.map_cons, String.join_cons, String.toList_append]
      exact each.1.append (induction each.2)

end Dyed

end Sequences

section Rows

/-- What is shown of the span has no escape character, and keeps to its line if it has a style. -/
def Span.Tame (span : Span) : Prop :=
  '\x1b' ∉ span.text.toList ∧ (span.style = .plain ∨ '\n' ∉ span.text.toList)

def Row.Tame (row : Row) : Prop :=
  ∀ span ∈ row, span.Tame

theorem Plain.tame {text : String} (plain : Plain text) (style : Style) : Span.Tame ⟨style, text⟩ :=
  ⟨plain.not_mem (by decide), .inr (plain.not_mem (by decide))⟩

theorem Style.code_opens {style : Style} (styled : style ≠ .plain) :
    ∃ code, style.code? = some code ∧ "\x1b[" ++ code ++ "m" ∈ openings := by
  cases style with
  | plain => exact absurd rfl styled
  | alarm => exact ⟨_, rfl, by decide⟩
  | pointer => exact ⟨_, rfl, by decide⟩
  | number => exact ⟨_, rfl, by decide⟩

variable {painter : Painter}

theorem Span.dyed (escapes : painter.Escapes) {span : Span} (tame : span.Tame) :
    Dyed (span.paint painter false).toList (span.paint painter true).toList := by
  rw [escapes.paint_off, paint]
  split
  case isTrue => exact .alone tame.1
  case isFalse styled =>
    obtain ⟨code, known, opens⟩ := Style.code_opens styled
    rw [escapes.on _ code _ known]
    have feed := tame.2.resolve_left styled
    have piece := Dyed.styled opens tame.1 feed .done
    simpa [closing] using piece

theorem Row.dyed (escapes : painter.Escapes) {row : Row} (tame : row.Tame) :
    Dyed (row.paint painter false).toList (row.paint painter true).toList := by
  simp only [Row.paint, String.toList_append]
  have spans := Dyed.join fun span member => Span.dyed escapes (tame span member)
  exact spans.append (.alone (by decide))

end Rows

namespace Diagnostic

section Tame

theorem heading_tame {fault : Fault} (message : EscapeFree fault.message) :
    (heading fault).Tame := by
  intro span member
  refine ⟨not_mem_heading (by decide) message span member, ?_⟩
  simp only [heading, List.mem_cons, List.not_mem_nil, or_false] at member
  rcases member with rfl | rfl | rfl
  · exact .inr (fault.plain_category.not_mem (by decide))
  · exact .inl rfl
  · exact .inl rfl

theorem arrow_tame {location : Location}
    (named : ∀ name, location.file = some name → EscapeFree name) :
    (arrow location).Tame := by
  intro span member
  refine ⟨not_mem_arrow (by decide) named span member, ?_⟩
  simp only [arrow, List.mem_cons, List.not_mem_nil, or_false] at member
  rcases member with rfl | rfl | rfl
  · exact .inl rfl
  · exact .inr (by decide)
  · exact .inl rfl

theorem numbered_tame (style : Style) (width line : Nat) {text : List Char}
    (without : '\x1b' ∉ text) : (numbered style width line text).Tame := by
  have number : Plain (Text.alignRight width (toString line)) := by
    rw [Text.align_right_eq, plain_append]
    exact ⟨plain_spaces _, plain_to_string line⟩
  intro span member
  simp only [numbered, List.mem_cons, List.not_mem_nil, or_false] at member
  rcases member with rfl | rfl | rfl
  · exact Plain.tame (plain_of_list rfl) _
  · exact number.tame style
  · exact ⟨by simpa using without, .inl rfl⟩

theorem caret_tame (width column : Nat) : (caret width column).Tame := by
  intro span member
  simp only [caret, List.mem_cons, List.not_mem_nil, or_false] at member
  rcases member with rfl | rfl
  · exact (plain_spaces _).tame _
  · exact Plain.tame (plain_of_list rfl) _

/-- The lines of a text have no characters but those of the text. -/
theorem line_subset {text line : List Char} {number : Nat}
    (found : Text.lineAt (Text.lines text) number = some line) : line ⊆ text := by
  by_cases some : text = []
  · subst some
    cases number <;> simp [Text.lines, Text.lineAt] at found
  · obtain ⟨front, back, rfl, -⟩ := (Text.line_at_iff some number line).mp found
    intro c member
    simp [member]

variable {source : List Char}

theorem neighbour_tame (without : '\x1b' ∉ source) (width line : Nat) :
    ∀ row ∈ neighbour (Text.lines source) width line, row.Tame := by
  unfold neighbour
  cases found : Text.lineAt (Text.lines source) line with
  | none => simp
  | some text =>
      have kept : '\x1b' ∉ text := fun member => without (line_subset found member)
      simpa using numbered_tame .number width line kept

theorem excerpt_tame (without : '\x1b' ∉ source) (location : Location) :
    ∀ row ∈ excerpt (Text.lines source) location, row.Tame := by
  unfold excerpt
  cases found : Text.lineAt (Text.lines source) location.line with
  | none => simp
  | some text =>
      have kept : '\x1b' ∉ text := fun member => without (line_subset found member)
      simp only [List.forall_mem_append, List.forall_mem_cons]
      exact ⟨⟨neighbour_tame without _ _, numbered_tame _ _ _ kept, caret_tame _ _, by simp⟩,
        neighbour_tame without _ _⟩

end Tame

theorem rows_tame {error : Error} {source : Option String}
    (message : EscapeFree error.fault.message)
    (named : ∀ name, error.location.file = some name → EscapeFree name)
    (shown : ∀ text, source = some text → EscapeFree text) :
    ∀ row ∈ (Diagnostic.mk error source).rows, row.Tame := by
  unfold rows
  simp only [List.forall_mem_append, List.forall_mem_cons]
  refine ⟨⟨heading_tame message, arrow_tame named, by simp⟩, ?_⟩
  cases source with
  | none => simp
  | some text => exact excerpt_tame (shown text rfl) error.location

/-- The category comes first, in red. -/
theorem begins_with_category {painter : Painter} (escapes : painter.Escapes) (error : Error)
    (source : Option String) : ∃ rest, (Diagnostic.mk error source).paint painter true =
      "\x1b[1;31m" ++ error.fault.category ++ "\x1b[0m" ++ rest := by
  have begun : ∀ (span : Span) (row : Row) (rows : List Row), ∃ rest,
      String.join (((span :: row) :: rows).map (Row.paint painter true)) =
        span.paint painter true ++ rest := by
    intro span row rows
    simp only [Row.paint, List.map_cons, String.join_cons, String.append_assoc]
    exact ⟨_, rfl⟩
  have red : Span.paint painter true ⟨.alarm, error.fault.category⟩ =
      "\x1b[1;31m" ++ error.fault.category ++ "\x1b[0m" := escapes.on .alarm "1;31" _ rfl
  exact red ▸ begun ⟨.alarm, error.fault.category⟩ _ _

/-- Coloured, the diagnostic is what it is without colours but for the sequences, each of which is
closed on its line. The first of them makes the category red. -/
structure OnlyColoured (painter : Painter) (diagnostic : Diagnostic) : Prop where
  bare : uncolour (diagnostic.paint painter true) = diagnostic.paint painter false
  bare_free : EscapeFree (diagnostic.paint painter false)
  closed : Closed (diagnostic.paint painter true)
  category : ∃ rest, diagnostic.paint painter true =
    "\x1b[1;31m" ++ diagnostic.error.fault.category ++ "\x1b[0m" ++ rest

end Diagnostic

/-- The errors there can be: those that come up in some text, and those that are made for a
character or with a message of their own. -/
inductive Error.Made (error : Error) : Prop where
  | arising {text : String} {file : Option String} {found : Option Token} :
      error.Arises text file found → Made error
  | stray {c : Char} : error.fault = .strayCharacter c → Made error
  | worded : EscapeFree error.fault.message → Made error

theorem Error.Made.message_escape_free {error : Error} (made : error.Made) :
    EscapeFree error.fault.message := by
  have control : Text.Control '\x1b' := by decide
  cases made with
  | arising arises => exact fun member => arises.message_safe '\x1b' member control
  | stray fault => exact fun member => Fault.stray_message_safe _ '\x1b' (fault ▸ member) control
  | worded free => exact free

theorem only_colours_are_added (painter : Painter) (escapes : painter.Escapes) (error : Error)
    (source : Option String) (made : error.Made)
    (named : ∀ name, error.location.file = some name → EscapeFree name)
    (shown : ∀ text, source = some text → EscapeFree text) :
    (Diagnostic.mk error source).OnlyColoured painter := by
  have tame := Diagnostic.rows_tame made.message_escape_free named shown
  have dyed : Dyed ((Diagnostic.mk error source).paint painter false).toList
      ((Diagnostic.mk error source).paint painter true).toList :=
    Dyed.join fun row member => Row.dyed escapes (tame row member)
  refine ⟨?_, dyed.bare_without, ?_, Diagnostic.begins_with_category escapes error source⟩
  · rw [uncolour, dyed.strip_eq, String.ofList_toList]
  · intro opening opens front back same
    obtain ⟨inner, rest, split, escape, feed⟩ :=
      dyed.closed opens front.toList back.toList (by simp [same])
    refine ⟨String.ofList inner, String.ofList rest, ?_, by simpa using escape, by simpa using feed⟩
    apply String.toList_injective
    simp [split]

def strayInFile : Error :=
  ⟨.strayCharacter '$', ⟨2, 5, 11, some "a"⟩⟩

/-- A stray character with a line in front of its own and one behind. -/
theorem colours_of_three_lines_are_added : strayInFile.Made ∧ EscapeFree "a" ∧
    EscapeFree "use a;\nuse $;\nuse b;" ∧ ansi.Escapes ∧
    (Diagnostic.mk strayInFile (some "use a;\nuse $;\nuse b;")).OnlyColoured ansi ∧
    (Diagnostic.mk strayInFile (some "use a;\nuse $;\nuse b;")).render true =
      "\x1b[1;31mLex Error\x1b[0m: Unexpected character '$'\n" ++
      "  \x1b[1;34m-->\x1b[0m a:2:5\n" ++
      "  \x1b[34m1\x1b[0m use a;\n" ++
      "  \x1b[1;34m2\x1b[0m use $;\n" ++
      "       \x1b[1;31m^\x1b[0m\n" ++
      "  \x1b[34m3\x1b[0m use b;\n" := by
  have fails : tokenize "use a;\nuse $;\nuse b;" (some "a") = .error strayInFile := by
    decide +kernel
  have made : strayInFile.Made := .arising (arises_of_reading fails)
  have name : EscapeFree "a" := by
    unfold EscapeFree
    decide
  have text : EscapeFree "use a;\nuse $;\nuse b;" := by
    unfold EscapeFree
    decide
  refine ⟨made, name, text, ansi_escapes,
    only_colours_are_added ansi ansi_escapes strayInFile _ made ?_ ?_, by decide +kernel⟩
  · rintro _ ⟨⟩
    exact name
  · rintro _ ⟨⟩
    exact text

end Sierra
