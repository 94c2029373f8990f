import Sierra.Proofs.Diagnostic.Excerpt
import Sierra.Proofs.Origin
import Sierra.Proofs.Truncation

/-!
# Errors in their source

The line of an error that comes up in a text is one of the lines that a diagnostic can show of the
text, unless the text is empty: then there is no line to show, though a tree can be missing there.
What is shown are the lines themselves, and from the column of the error on the line goes on with
what the error is about.
-/

namespace Sierra.Diagnostic

set_option autoImplicit false

open Sierra.Text (IsLine)

/-- With the source, coloured or not, a diagnostic has the row of the error's line and a caret row
behind it. -/
def ShowsLine (error : Error) (source : String) : Prop :=
  ∃ line, IsLine source.toList error.location.line line ∧ ∀ coloured, ∃ before after,
    let width := numberWidth error.location.line
    (Diagnostic.mk error (some source)).render coloured =
      before ++ (numbered .pointer width error.location.line line).render coloured ++
        (caret width error.location.column).render coloured ++ after

section Arises

variable {source : String} {file : Option String} {error : Error} {found : Option Token}

theorem shows_line_of_arises (some : source ≠ "") (arises : error.Arises source file found) :
    ShowsLine error source := by
  obtain ⟨line, stands, -⟩ := arises.on_line
  refine ⟨line, stands, ?_⟩
  intro coloured
  refine ⟨(Diagnostic.mk error none).render coloured ++
    neighbourText coloured source (numberWidth error.location.line) (error.location.line - 1),
    neighbourText coloured source (numberWidth error.location.line) (error.location.line + 1), ?_⟩
  rw [render_with_source, context_eq some stands]
  simp only [String.append_assoc]

theorem range_of_arises (some : source ≠ "") (arises : error.Arises source file found) :
    1 ≤ error.location.line ∧ error.location.line ≤ (Text.lines source.toList).length := by
  obtain ⟨line, stands, -⟩ := arises.on_line
  exact stands.in_range (by simpa using some)

end Arises

/-- Of the empty text there is nothing to show. -/
theorem render_empty (error : Error) (coloured : Bool) :
    (Diagnostic.mk error (some "")).render coloured =
      (Diagnostic.mk error none).render coloured := by
  have nothing : context coloured "" error.location = "" := by
    cases location : error.location with
    | mk line column offset file => cases line <;> rfl
  rw [render_with_source, nothing, String.append_empty]

theorem arises_of_file {source : String} {file : Option String} {error : Error}
    (failed : SourceFile.ofText source file = .error error) :
    ∃ found, error.Arises source file found := by
  have missing : Node.ofText .sourceFile source file = .error error := by
    rw [Node.of_text_source_file, failed]
    rfl
  exact arises_of_tree missing

/-- The empty text is a file without units. -/
theorem file_of_empty (file : Option String) : SourceFile.ofText "" file = .ok ⟨[]⟩ := rfl

theorem failures_show_their_line (source : String) (file : Option String) :
    (∀ error, SourceFile.ofText source file = .error error → ShowsLine error source) ∧
    (source ≠ "" → ∀ rule error, Node.ofText rule source file = .error error →
      ShowsLine error source) ∧
    (source ≠ "" → ∀ (error : Error) found, error.Arises source file found →
      1 ≤ error.location.line ∧ error.location.line ≤ (Text.lines source.toList).length) ∧
    (source = "" → ∀ error coloured, (Diagnostic.mk error (some source)).render coloured =
      (Diagnostic.mk error none).render coloured) := by
  refine ⟨?_, ?_, fun some error found => range_of_arises some, ?_⟩
  · intro error failed
    have some : source ≠ "" := by
      rintro rfl
      simp [file_of_empty] at failed
    obtain ⟨found, arises⟩ := arises_of_file failed
    exact shows_line_of_arises some arises
  · intro some rule error failed
    obtain ⟨found, arises⟩ := arises_of_tree failed
    exact shows_line_of_arises some arises
  · rintro rfl error coloured
    exact render_empty error coloured

/-- Behind a line feed the missing expression is on a line of its own, the second. -/
theorem line_behind_feed_is_shown : ∃ error, Node.ofText .expression "\n" none = .error error ∧
    error.location.line = 2 ∧ ShowsLine error "\n" := by
  have fails : Node.ofText .expression "\n" none = .error
      ⟨.incomplete "Expected expression, found end of input" .expression, ⟨2, 1, 1, none⟩⟩ := by
    decide +kernel
  have shown := (failures_show_their_line "\n" none).2.1 (by decide) .expression _ fails
  exact ⟨_, fails, rfl, shown⟩

def missingExpression : Error :=
  ⟨.incomplete "Expected expression, found end of input" .expression, ⟨1, 1, 0, none⟩⟩

/-- It names the first line, but no row and no caret are shown. -/
theorem empty_text_shows_no_line :
    Node.ofText .expression "" none = .error missingExpression ∧
      ¬ShowsLine missingExpression "" := by
  refine ⟨by decide +kernel, ?_⟩
  rintro ⟨line, -, shown⟩
  obtain ⟨before, after, same⟩ := shown false
  have mark : '^' ∈ ((Diagnostic.mk missingExpression (some "")).render false).toList := by
    rw [same, caret_row]
    simp
  exact absurd mark (by decide +kernel)

/-- What the source adds to a diagnostic is an excerpt around the line of the error, and from the
column of the error on this line goes on with what the error is about. -/
def Illustrates (source : String) (error : Error) (found : Option Token) : Prop :=
  ∃ line width blanks shown,
    (Diagnostic.mk error (some source)).render false =
      (Diagnostic.mk error none).render false ++ shown ∧
    IsLine source.toList error.location.line line ∧
    IsExcerpt source width error.location.line line blanks shown ∧
    error.Offends found (line.drop (error.location.column - 1)) ∧
    ∀ token, found = some token → token.kind = .endOfInput →
      error.location.column = line.length + 1

theorem excerpts_show_the_source (source : String) (file : Option String) (error : Error)
    (found : Option Token) (arises : error.Arises source file found)
    (first : 1 ≤ error.location.line)
    (last : error.location.line ≤ (Text.lines source.toList).length) :
    Illustrates source error found := by
  obtain ⟨some, -⟩ := line_of_range first last
  obtain ⟨line, stands, offends, ending⟩ := arises.on_line
  exact ⟨line, _, _, _, render_with_source error source false, stands,
    context_of_line some stands, offends, ending⟩

/-- The second line, with a stray character, is shown behind the first and without its return. -/
theorem stray_behind_return_is_shown : ∃ error,
    error.Arises "use a;\r\nuse $;\r\n" none none ∧ 1 ≤ error.location.line ∧
    error.location.line ≤ (Text.lines "use a;\r\nuse $;\r\n".toList).length ∧
    Illustrates "use a;\r\nuse $;\r\n" error none := by
  have fails : tokenize "use a;\r\nuse $;\r\n" none =
      .error ⟨.strayCharacter '$', ⟨2, 5, 12, none⟩⟩ := by decide +kernel
  have arises := arises_of_reading fails
  have last : 2 ≤ (Text.lines "use a;\r\nuse $;\r\n".toList).length := by decide +kernel
  exact ⟨_, arises, by decide, last, excerpts_show_the_source _ _ _ _ arises (by decide) last⟩

end Sierra.Diagnostic
