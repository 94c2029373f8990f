import Sierra.Diagnostic
import Sierra.Proofs.Grammar.Wording
import Sierra.Proofs.Origin
import Sierra.Proofs.Text.Escape

/-!
# Messages are safe to print

A message is worded by the program, and of the text it quotes lexemes, which can be printed, or one
stray character, which is escaped. So a text cannot bring a control character into its message, and
the error without its source takes two lines if the name of its file does not take more. A stray
character can be told from its message.
-/

namespace Sierra

set_option autoImplicit false

open Sierra.Text (Control Safe safe_append)

theorem Plain.safe {text : String} (plain : Plain text) : Safe text := by
  intro c member control
  obtain ⟨low, high⟩ := plain c member
  have low' : 0x20 ≤ c.toNat := low
  have high' : c.toNat ≤ 0x7e := high
  rcases control with control | control <;> omega

theorem Plain.not_mem {text : String} (plain : Plain text) {c : Char} (control : Control c) :
    c ∉ text.toList :=
  fun member => plain.safe c member control

namespace Fault

theorem stray_message_eq (c : Char) :
    (strayCharacter c).message = "Unexpected character '" ++ Text.escape c ++ "'" := rfl

theorem stray_message_safe (c : Char) : Safe (strayCharacter c).message := by
  have front : Plain "Unexpected character '" := plain_of_list rfl
  have back : Plain "'" := plain_of_list rfl
  rw [stray_message_eq, safe_append, safe_append]
  exact ⟨⟨front.safe, Text.escape_safe c⟩, back.safe⟩

theorem stray_message_injective {c d : Char}
    (same : (strayCharacter c).message = (strayCharacter d).message) : c = d := by
  rw [stray_message_eq, stray_message_eq, String.append_left_inj, String.append_right_inj] at same
  exact Text.escape_injective same

theorem plain_category (fault : Fault) : Plain fault.category := by
  cases fault <;> exact plain_of_list rfl

end Fault

theorem Location.plain_line_column (here : Location) : Plain here.lineColumn := by
  have colon : Plain ":" := plain_of_list rfl
  simp only [lineColumn, plain_append]
  exact ⟨⟨plain_to_string _, colon⟩, plain_to_string _⟩

namespace Error.Arises

variable {text : String} {file : Option String} {error : Error} {found : Option Token}

theorem location_file (arises : error.Arises text file found) : error.location.file = file := by
  obtain ⟨front, back, -, location, -⟩ := arises.stands
  rw [location, (Location.describes_after file front).file]

theorem message_safe (arises : error.Arises text file found) : Safe error.fault.message := by
  cases arises with
  | reading given =>
      obtain ⟨front, c, back, -, -, rfl⟩ := strays_stand _ _ _ (error_of_call given)
      exact Fault.stray_message_safe c
  | @parsing _ tokens steps rest given failed =>
      obtain ⟨front, same, stand, -⟩ := input_of_call given
      rw [same] at failed
      have printable : Input.Printable ⟨front, (Location.start file).after text.toList⟩ := by
        intro token member
        obtain ⟨before, back, stands⟩ := stand token member
        exact plain_of_lexeme (is_lexeme_of_spells stands.spells)
      exact (Input.run_speaks printable steps _ failed error rfl).safe

end Error.Arises

def Row.text (row : Row) : String :=
  String.join (row.map (·.text))

theorem Row.render_bare (row : Row) : row.render false = row.text ++ "\n" := by
  simp only [Row.paint, ansi_escapes.paint_off, Row.text]

theorem not_mem_append {c : Char} {front back : String} :
    c ∉ (front ++ back).toList ↔ c ∉ front.toList ∧ c ∉ back.toList := by
  simp [String.toList_append, not_or]

theorem Row.not_mem_text {c : Char} {row : Row} (without : ∀ span ∈ row, c ∉ span.text.toList) :
    c ∉ row.text.toList := by
  unfold text
  induction row with
  | nil => simp
  | cons span row induction =>
      rw [List.forall_mem_cons] at without
      rw [List.map_cons, String.join_cons, not_mem_append]
      exact ⟨without.1, induction without.2⟩

namespace Diagnostic

theorem render_alone (error : Error) (coloured : Bool) :
    (Diagnostic.mk error none).render coloured =
      (heading error.fault).render coloured ++ (arrow error.location).render coloured := by
  simp [paint, rows]

section Control

variable {c : Char}

theorem not_mem_heading {fault : Fault} (control : Control c)
    (message : c ∉ fault.message.toList) : ∀ span ∈ heading fault, c ∉ span.text.toList := by
  have colon : Plain ": " := plain_of_list rfl
  unfold heading
  simp only [List.forall_mem_cons, not_mem_append]
  refine ⟨fault.plain_category.not_mem control, ⟨colon.not_mem control, message⟩, ?_, by simp⟩
  cases fault.rule? with
  | none => exact plain_empty.not_mem control
  | some rule =>
      have front : Plain " (while parsing " := plain_of_list rfl
      have back : Plain ")" := plain_of_list rfl
      simp only [not_mem_append]
      exact ⟨⟨front.not_mem control, rule.plain_name.not_mem control⟩, back.not_mem control⟩

theorem not_mem_arrow {location : Location} (control : Control c)
    (named : ∀ name, location.file = some name → c ∉ name.toList) :
    ∀ span ∈ arrow location, c ∉ span.text.toList := by
  have indent : Plain "  " := plain_of_list rfl
  have head : Plain "-->" := plain_of_list rfl
  have blank : Plain " " := plain_of_list rfl
  have colon : Plain ":" := plain_of_list rfl
  have place : c ∉ location.text.toList := by
    have numbers := location.plain_line_column.not_mem control
    unfold Location.text
    cases file : location.file with
    | none => exact numbers
    | some name =>
        simp only [not_mem_append]
        exact ⟨⟨named name file, colon.not_mem control⟩, numbers⟩
  unfold arrow
  simp only [List.forall_mem_cons, not_mem_append]
  exact ⟨indent.not_mem control, head.not_mem control, ⟨blank.not_mem control, place⟩, by simp⟩

end Control

end Diagnostic

def TwoLines (text : String) : Prop :=
  ∃ first second : String, text = first ++ "\n" ++ (second ++ "\n") ∧
    '\n' ∉ first.toList ∧ '\n' ∉ second.toList

/-- The message has no control character, and without the source the error is shown in two lines,
if the name of the file has no line feed. -/
def Error.PrintsSafely (error : Error) (file : Option String) : Prop :=
  Safe error.fault.message ∧
    ((∀ name, file = some name → '\n' ∉ name.toList) →
      TwoLines ((Diagnostic.mk error none).render false))

theorem Error.Arises.prints_safely {text : String} {file : Option String} {error : Error}
    {found : Option Token} (arises : error.Arises text file found) : error.PrintsSafely file := by
  have safe := arises.message_safe
  have control : Control '\n' := by decide
  refine ⟨safe, fun named => ⟨(Diagnostic.heading error.fault).text,
    (Diagnostic.arrow error.location).text, ?_, ?_, ?_⟩⟩
  · rw [Diagnostic.render_alone, Row.render_bare, Row.render_bare]
  · exact Row.not_mem_text (Diagnostic.not_mem_heading control fun member =>
      safe '\n' member control)
  · exact Row.not_mem_text (Diagnostic.not_mem_arrow control (arises.location_file ▸ named))

theorem messages_are_safe (source : String) (file : Option String) :
    (∀ rule error, Node.ofText rule source file = .error error → error.PrintsSafely file) ∧
    (∀ (error : Error) found, error.Arises source file found → error.PrintsSafely file) ∧
    ∀ c d, (Fault.strayCharacter c).message = (Fault.strayCharacter d).message → c = d := by
  refine ⟨?_, fun error found arises => arises.prints_safely,
    fun c d => Fault.stray_message_injective⟩
  intro rule error failed
  obtain ⟨found, arises⟩ := arises_of_tree failed
  exact arises.prints_safely

/-- A control character is escaped in the message, and two lines are shown. -/
theorem escaped_next_line_is_safe : ∃ error,
    Node.ofText .block "begin \x85" (some "a") = .error error ∧
    error.fault.message = "Unexpected character '\x5cu\x7b85\x7d'" ∧ error.PrintsSafely (some "a") ∧
    TwoLines ((Diagnostic.mk error none).render false) := by
  have fails : Node.ofText .block "begin \x85" (some "a") =
      .error ⟨.strayCharacter '\x85', ⟨1, 7, 6, some "a"⟩⟩ := by decide +kernel
  have safe := (messages_are_safe "begin \x85" (some "a")).1 .block _ fails
  have named : ∀ name, some "a" = some name → '\n' ∉ name.toList := by
    rintro name ⟨⟩
    decide
  exact ⟨_, fails, by decide +kernel, safe, safe.2 named⟩

end Sierra
