import Sierra.Proofs.Grammar.Composition
import Sierra.Proofs.Token.Lossless

/-!
# Where trees begin

A tree keeps the location of the first token that it was derived from. So the units of a file stand
in the order of the file.
-/

namespace Sierra

set_option autoImplicit false

variable {α β : Type}

namespace Phrase

/-- The phrase derives nothing from no tokens, and its values fit the location of the first. -/
def Begins (phrase : Phrase α) (fits : α → Location → Prop) : Prop :=
  ∀ tokens value, phrase tokens value →
    ∃ first rest, tokens = first :: rest ∧ fits value first.location

namespace Begins

variable {phrase phrase' : Phrase α} {fits : α → Location → Prop}

theorem one {kinds : List Token.Kind} {fits : Token → Location → Prop}
    (same : ∀ token, fits token token.location) : (oneOf kinds).Begins fits := by
  intro tokens token derived
  exact ⟨token, [], derived.1, same token⟩

theorem imp {fits' : α → Location → Prop} (begins : phrase.Begins fits)
    (wider : ∀ value here, fits value here → fits' value here) : phrase.Begins fits' := by
  intro tokens value derived
  obtain ⟨first, rest, same, located⟩ := begins tokens value derived
  exact ⟨first, rest, same, wider value _ located⟩

theorem map {f : β → α} {phrase : Phrase β} (begins : phrase.Begins fun part => fits (f part)) :
    (f <$> phrase).Begins fits := by
  intro tokens value derivation
  obtain ⟨part, derived, rfl⟩ := derivation
  exact begins tokens part derived

theorem seq {first : Phrase (β → α)} {second : Phrase β}
    (begins : first.Begins fun f here => ∀ part, fits (f part) here) :
    (first <*> second).Begins fits := by
  intro tokens value derivation
  obtain ⟨front, back, f, part, rfl, derived, -, rfl⟩ := derivation
  obtain ⟨token, rest, rfl, located⟩ := begins front f derived
  exact ⟨token, rest ++ back, rfl, located part⟩

theorem either (begins : phrase.Begins fits) (begins' : phrase'.Begins fits) :
    (phrase <|> phrase').Begins fits := by
  intro tokens value derivation
  rcases derivation with derived | derived
  · exact begins tokens value derived
  · exact begins' tokens value derived

/-- Values derived one behind another have the locations of some of the tokens, in their order. -/
theorem sublist {location : α → Location}
    (begins : phrase.Begins fun value here => location value = here) {tokens : List Token}
    {values : List α} (derived : phrase.many tokens values) :
    (values.map location).Sublist (tokens.map (·.location)) := by
  induction derived with
  | done => exact .slnil
  | @round front back value values derived _ induction =>
      obtain ⟨first, rest, rfl, same⟩ := begins front value derived
      rw [List.map_cons, same, List.cons_append, List.map_cons, List.map_append]
      exact (induction.trans (List.sublist_append_right _ _)).cons_cons _

end Begins

end Phrase

open Phrase

theorem Identifier.begins : Identifier.phrase.Begins fun name here => name.location = here :=
  .map <| .one fun _ => rfl

namespace Expression

theorem operand_begins : operandPhrase.Begins fun operand here => operand.location = here :=
  .either (.map <| .one fun _ => rfl) <|
    .either (.map Identifier.begins) (.seq <| .map <| Identifier.begins.imp fun _ _ same _ => same)

theorem location_foldl (others : List Expression) (first : Expression) :
    (others.foldl (fun left right => range left right left.location) first).location =
      first.location := by
  induction others generalizing first with
  | nil => rfl
  | cons other others induction => exact induction _

theorem begins : Expression.phrase.Begins fun value here => value.location = here :=
  .seq <| .map <| operand_begins.imp fun first _ same others =>
    (location_foldl others first).trans same

end Expression

theorem Statement.begins : Statement.phrase.Begins fun tree here => tree.location = here :=
  .seq <| .seq <| .map <| Expression.begins.imp fun _ _ same _ _ => same

theorem Block.begins : Block.phrase.Begins fun tree here => tree.location = here :=
  .seq <| .seq <| .map <| .one fun _ _ _ => rfl

theorem Parameter.begins : Parameter.phrase.Begins fun tree here => tree.location = here := by
  intro tokens parameter derivation
  obtain ⟨first, rest, _, rfl, ⟨_, _, _, _, -, ⟨_, _, _, _, -, ⟨_, -, rfl⟩, -, rfl⟩, -, rfl⟩,
    rfl⟩ := derivation
  exact ⟨first, rest, rfl, rfl⟩

theorem ParameterList.begins : ParameterList.phrase.Begins fun tree here => tree.location = here :=
  .seq <| .seq <| .seq <| .map <| .one fun _ _ _ _ => rfl

theorem FunctionDefinition.begins :
    FunctionDefinition.phrase.Begins fun tree here => tree.location = here := by
  intro tokens definition derivation
  obtain ⟨first, rest, _, rfl, ⟨_, _, _, _, -, ⟨_, _, _, _, -, ⟨_, _, _, _, -, ⟨_, _, _, _, -,
    ⟨_, _, _, _, -, ⟨_, -, rfl⟩, -, rfl⟩, -, rfl⟩, -, rfl⟩, -, rfl⟩, -, rfl⟩, rfl⟩ := derivation
  exact ⟨first, rest, rfl, rfl⟩

theorem UseStatement.begins : UseStatement.phrase.Begins fun tree here => tree.location = here :=
  .seq <| .seq <| .map <| .one fun _ _ _ => rfl

theorem ProgramStatement.begins :
    ProgramStatement.phrase.Begins fun tree here => tree.location = here :=
  .seq <| .seq <| .map <| .one fun _ _ _ => rfl

theorem TypeDefinition.begins :
    TypeDefinition.phrase.Begins fun tree here => tree.location = here :=
  .seq <| .seq <| .seq <| .seq <| .map <| .one fun _ _ _ _ _ => rfl

theorem ImplementationBlock.begins :
    ImplementationBlock.phrase.Begins fun tree here => tree.location = here :=
  .seq <| .seq <| .seq <| .map <| .one fun _ _ _ _ => rfl

theorem SyntaxUnit.begins : SyntaxUnit.phrase.Begins fun tree here => tree.location = here :=
  .either (.map UseStatement.begins) <| .either (.map ProgramStatement.begins) <|
    .either (.map TypeDefinition.begins) (.map ImplementationBlock.begins)

/-- Only a file may be empty, and only a file and a path keep no location of their own. -/
theorem Rule.begins {rule : Rule} (located : rule ≠ .sourceFile ∧ rule ≠ .qualifiedIdentifier) :
    rule.phrase.Begins fun node here => node.location? = some here := by
  cases rule with
  | sourceFile => exact absurd rfl located.1
  | syntaxUnit => exact .map <| SyntaxUnit.begins.imp fun _ _ => congrArg some
  | useStatement => exact .map <| UseStatement.begins.imp fun _ _ => congrArg some
  | programStatement => exact .map <| ProgramStatement.begins.imp fun _ _ => congrArg some
  | typeDefinition => exact .map <| TypeDefinition.begins.imp fun _ _ => congrArg some
  | implementationBlock => exact .map <| ImplementationBlock.begins.imp fun _ _ => congrArg some
  | functionDefinition => exact .map <| FunctionDefinition.begins.imp fun _ _ => congrArg some
  | parameterList => exact .map <| ParameterList.begins.imp fun _ _ => congrArg some
  | parameter => exact .map <| Parameter.begins.imp fun _ _ => congrArg some
  | block => exact .map <| Block.begins.imp fun _ _ => congrArg some
  | statement => exact .map <| Statement.begins.imp fun _ _ => congrArg some
  | expression => exact .map <| Expression.begins.imp fun _ _ => congrArg some
  | qualifiedIdentifier => exact absurd rfl located.2

theorem Part.Derived.begins {part : Part} {tokens : List Token} {location : Location}
    (derived : part.Derived tokens) (kept : part.location? = some location) :
    ∃ first rest, tokens = first :: rest ∧ location = first.location := by
  cases part with
  | name identifier =>
      obtain ⟨first, rest, same, located⟩ := Identifier.begins tokens identifier derived
      exact ⟨first, rest, same, (Option.some.inj kept).symm.trans located⟩
  | tree node =>
      have located : node.rule ≠ .sourceFile ∧ node.rule ≠ .qualifiedIdentifier := by
        cases node with
        | sourceFile file => cases kept
        | qualifiedIdentifier path => cases kept
        | _ => exact ⟨nofun, nofun⟩
      obtain ⟨first, rest, same, here⟩ := Rule.begins located tokens node derived
      exact ⟨first, rest, same, Option.some.inj (kept.symm.trans here)⟩

/-- A token has a character, so the next one is farther on. -/
theorem Tiles.locations_increase {here finish : Location} {text : List Char} {tokens : List Token}
    (tiles : Tiles here text tokens finish) :
    (tokens.map (·.location)).Pairwise fun first second => first.offset < second.offset := by
  rw [List.pairwise_map]
  apply tiles.ordered.imp_of_mem
  intro first second member _ behind
  obtain ⟨front, back, stands⟩ := tiles.stands first member
  obtain ⟨c, tail, lexeme, -⟩ := lead_of_lexeme (is_lexeme_of_spells stands.spells)
  have size : 0 < first.lexeme.utf8ByteSize := by
    rw [← String.ofList_toList (s := first.lexeme), lexeme, bytes_cons]
    exact Nat.add_pos_left c.utf8Size_pos _
  omega

theorem SourceFile.units_increase {here finish : Location} {text : List Char} {tokens : List Token}
    {file : SourceFile} (tiles : Tiles here text tokens finish)
    (derived : SourceFile.phrase tokens file) :
    file.units.Pairwise fun first second => first.location.offset < second.location.offset := by
  obtain ⟨units, derived, rfl⟩ := derived
  have located := tiles.locations_increase.sublist (SyntaxUnit.begins.sublist derived)
  rwa [List.pairwise_map] at located

end Sierra
