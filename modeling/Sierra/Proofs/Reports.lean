import Sierra.Proofs.Grammar.Openings
import Sierra.Proofs.Joining
import Sierra.Proofs.Tree.Text
import Sierra.Proofs.Truncation
import Sierra.Report

/-!
# Reports agree

All reports read the tokens first, and counting units, listing them and showing the tree of a file
read the same file. So what fails in one fails in the others, with the same diagnostic, and what one
shows of the units the others show too. A listing has one line for each unit, and the tree of the
file is one line.
-/

namespace Sierra

set_option autoImplicit false

namespace Report

variable {coloured : Bool} {source file : String}

theorem render_ok_iff {report : Report} {shown : String} :
    report.render coloured source file = .ok shown ↔ report.text source file = .ok shown := by
  unfold render
  cases report.text source file <;> simp [Except.mapError]

theorem render_error_iff {report : Report} {message : String} :
    report.render coloured source file = .error message ↔ ∃ error,
      report.text source file = .error error ∧
        message = (Diagnostic.mk error (some source)).render coloured := by
  unfold render
  cases report.text source file <;> simp [Except.mapError, eq_comm]

theorem tokens_fail_iff {message : String} :
    tokens.render coloured source file = .error message ↔ ∃ error,
      tokenize source (some file) = .error error ∧
        message = (Diagnostic.mk error (some source)).render coloured := by
  rw [render_error_iff]
  simp only [text]
  cases tokenize source (some file) <;> simp [bind, Except.bind, pure, Except.pure]

/-- A stray character comes before every error of the grammar. -/
theorem text_of_stray {error : Error} (failed : tokenize source (some file) = .error error)
    (report : Report) : report.text source file = .error error := by
  cases report with
  | tokens => simp [text, failed, bind, Except.bind]
  | tree rule => simp [text, Node.ofText, failed, bind, Except.bind]
  | units listed => simp [text, SourceFile.ofText, failed, bind, Except.bind]

theorem text_units (listed : Bool) : (units listed).text source file =
    (fun tree : SourceFile => (if listed then String.join (tree.units.map unitRow) else "") ++
      unitCount file tree.units) <$> SourceFile.ofText source (some file) := by
  simp only [text]
  cases SourceFile.ofText source (some file) <;> rfl

theorem text_file : (tree .sourceFile).text source file =
    (fun tree : SourceFile => tree.text ++ "\n" ++
      ("ok: " ++ file ++ " (" ++ Rule.sourceFile.name ++ ")\n")) <$>
        SourceFile.ofText source (some file) := by
  simp only [text, Node.of_text_source_file]
  cases SourceFile.ofText source (some file) with
  | error error => rfl
  | ok tree =>
      apply congrArg Except.ok
      apply String.toList_inj.mp
      simp [Node.text]

theorem units_fail_iff (listed : Bool) (message : String) :
    (units listed).render coloured source file = .error message ↔
      (tree .sourceFile).render coloured source file = .error message := by
  rw [render_error_iff, render_error_iff, text_units, text_file]
  cases SourceFile.ofText source (some file) with
  | error error => rfl
  | ok tree => simp

end Report

/-- The units of a file stand one behind another, and each of them is written in one line. -/
theorem SourceFile.units_of_text {text : String} {file : Option String} {tree : SourceFile}
    (reads : SourceFile.ofText text file = .ok tree) :
    tree.units.Pairwise (fun first second => first.location.offset < second.location.offset) ∧
      (∀ unit ∈ tree.units, Plain unit.text) ∧ Plain tree.text := by
  obtain ⟨tokens, finish, tiles, derived⟩ := tiles_of_text reads
  have kept : tree.units.flatMap SyntaxUnit.flatten = leaves tokens :=
    Rule.sourceFile.keeps tokens (.sourceFile tree) ⟨tree, derived, rfl⟩
  have plain : PlainLeaves (tree.units.flatMap SyntaxUnit.flatten) := kept ▸ tiles.plain_leaves
  refine ⟨units_increase tiles derived, ?_, tree.plain_iff.mpr plain⟩
  intro unit member
  exact unit.plain_iff.mpr ((PlainLeaves.flat_map _ _).mp plain unit member)

theorem SourceFile.text_eq (tree : SourceFile) : tree.text =
    "SourceFile([" ++ String.intercalate ", " (tree.units.map (·.text)) ++ "])" := by
  apply String.toList_inj.mp
  simp [text, bracketed]

namespace Report

theorem reports_agree (coloured : Bool) (source file : String) :
    (∀ listed message, (units listed).render coloured source file = .error message ↔
      (tree .sourceFile).render coloured source file = .error message) ∧
    ((∃ message, tokens.render coloured source file = .error message) ↔
      ∃ c ∈ source.toList, ¬Admitted c) ∧
    (∀ message, tokens.render coloured source file = .error message →
      ∀ report : Report, report.render coloured source file = .error message) ∧
    ∀ count, (units false).render coloured source file = .ok count → ∃ members,
      SourceFile.ofText source (some file) = .ok ⟨members⟩ ∧
      members.Pairwise (fun first second => first.location.offset < second.location.offset) ∧
      (∀ member ∈ members, Plain member.text) ∧
      count = "ok: " ++ file ++ " (" ++ toString members.length ++ " syntax units)\n" ∧
      (units true).render coloured source file = .ok (String.join (members.map fun member =>
        toString member.location.line ++ ":" ++ toString member.location.column ++ "  " ++
          member.text ++ "\n") ++ count) ∧
      ∃ line rest, (tree .sourceFile).render coloured source file = .ok (line ++ "\n" ++ rest) ∧
        line = "SourceFile([" ++ String.intercalate ", " (members.map (·.text)) ++ "])" ∧
        Plain line := by
  refine ⟨units_fail_iff, ?_, ?_, ?_⟩
  · simp [tokens_fail_iff, ← tokenize_fails_iff source (some file)]
  · intro message failed report
    obtain ⟨error, stray, rfl⟩ := tokens_fail_iff.mp failed
    exact render_error_iff.mpr ⟨error, text_of_stray stray report, rfl⟩
  · intro count shown
    rw [render_ok_iff, text_units] at shown
    cases reads : SourceFile.ofText source (some file) with
    | error error => simp [reads] at shown
    | ok tree =>
        obtain ⟨ordered, lines, line⟩ := SourceFile.units_of_text reads
        obtain rfl : unitCount file tree.units = count := by simpa [reads] using shown
        refine ⟨tree.units, rfl, ordered, lines, rfl, ?_, tree.text,
          "ok: " ++ file ++ " (" ++ Rule.sourceFile.name ++ ")\n", ?_, tree.text_eq, line⟩
        · rw [render_ok_iff, text_units, reads]
          rfl
        · rw [render_ok_iff, text_file, reads]
          rfl

/-- The stray character is what all reports name, though a name is missing in front of it. Two units
are counted, listed in a row each and written into one line. -/
theorem stray_and_unit_are_reported_alike :
    (∃ message, tokens.render false "program; $" "a" = .error message ∧
      ∀ report : Report, report.render false "program; $" "a" = .error message) ∧
    (units false).render false "use b.c;\nprogram d;" "a" = .ok "ok: a (2 syntax units)\n" ∧
    SourceFile.ofText "use b.c;\nprogram d;" (some "a") = .ok
      ⟨[.use ⟨⟨[⟨"b", ⟨1, 5, 4, some "a"⟩⟩, ⟨"c", ⟨1, 7, 6, some "a"⟩⟩]⟩, ⟨1, 1, 0, some "a"⟩⟩,
        .program ⟨⟨"d", ⟨2, 9, 17, some "a"⟩⟩, ⟨2, 1, 9, some "a"⟩⟩]⟩ ∧
    (units true).render false "use b.c;\nprogram d;" "a" = .ok
      ("1:1  UseStatement(QualifiedIdentifier([b, c]))\n" ++ "2:1  ProgramStatement(d)\n" ++
        "ok: a (2 syntax units)\n") ∧
    ∃ rest, (tree .sourceFile).render false "use b.c;\nprogram d;" "a" = .ok
      ("SourceFile([UseStatement(QualifiedIdentifier([b, c])), ProgramStatement(d)])" ++ "\n" ++
        rest) := by
  obtain ⟨-, strays, alike, -⟩ := reports_agree false "program; $" "a"
  obtain ⟨message, failed⟩ := strays.mpr ⟨'$', by decide, by decide⟩
  have counted : (units false).render false "use b.c;\nprogram d;" "a" =
      .ok "ok: a (2 syntax units)\n" := by decide +kernel
  obtain ⟨members, reads, -, -, -, listed, line, rest, shown, rfl, -⟩ :=
    (reports_agree false "use b.c;\nprogram d;" "a").2.2.2 _ counted
  have read : SourceFile.ofText "use b.c;\nprogram d;" (some "a") = .ok
      ⟨[.use ⟨⟨[⟨"b", ⟨1, 5, 4, some "a"⟩⟩, ⟨"c", ⟨1, 7, 6, some "a"⟩⟩]⟩, ⟨1, 1, 0, some "a"⟩⟩,
        .program ⟨⟨"d", ⟨2, 9, 17, some "a"⟩⟩, ⟨2, 1, 9, some "a"⟩⟩]⟩ := by decide +kernel
  obtain rfl := (SourceFile.mk.inj (Except.ok.inj (reads.symm.trans read)) : members = _)
  refine ⟨⟨message, failed, alike message failed⟩, counted, read, ?_, rest, ?_⟩
  · exact listed.trans (congrArg Except.ok (by decide +kernel))
  · exact shown.trans (congrArg Except.ok (congrArg (· ++ "\n" ++ rest) (by decide +kernel)))

end Report

end Sierra
