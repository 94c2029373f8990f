import Sierra.Proofs.Grammar.Flatten
import Sierra.Proofs.Token.Lossless
import Sierra.Text.Padding
import Sierra.Tree.Text

/-!
# The text of a tree is one line

The text of a range is made of the texts of its operands, in whatever order the pieces of a chain
are put together. Trees write nothing but printable characters of ASCII and the characters of their
names and numbers. Those of a tree that was read are letters, digits and underscores.
-/

namespace Sierra

set_option autoImplicit false

variable {α : Type}

/-- A text of printable characters of ASCII. Neither a line feed nor a return is one. -/
def Plain (text : String) : Prop :=
  ∀ c ∈ text.toList, ' ' ≤ c ∧ c ≤ '~'

-- The instance is named since for a finite type all its values may be tried instead.
instance (text : String) : Decidable (Plain text) :=
  List.decidableBAll (fun c => ' ' ≤ c ∧ c ≤ '~') text.toList

section Plain

/-- A literal is the list of its characters, which are quicker to try than the text itself. -/
theorem plain_of_list {chars : List Char}
    (each : (chars.all fun c => decide (' ' ≤ c ∧ c ≤ '~')) = true) :
    Plain (String.ofList chars) := by
  intro c member
  rw [String.toList_ofList] at member
  exact of_decide_eq_true (List.all_eq_true.mp each c member)

@[simp] theorem plain_empty : Plain "" := by decide

/-- What trees write of their own. -/
@[simp] theorem plain_words : Plain "[" ∧ Plain "]" ∧ Plain "(" ∧ Plain ")" ∧ Plain ", " ∧
    Plain "_" ∧ Plain ":" ∧ Plain "const" ∧ Plain "mutable" ∧ Plain "public" ∧ Plain "private" ∧
    Plain "NumberLiteral(" ∧ Plain "Identifier(" ∧ Plain "Range(" ∧ Plain "ArrayTypeExpr(" ∧
    Plain "QualifiedIdentifier(" ∧ Plain "Statement(" ∧ Plain "Block(" ∧ Plain "Parameter(" ∧
    Plain "ParameterList(" ∧ Plain "FunctionDefinition(" ∧ Plain "ImplementationBlock(" ∧
    Plain "TypeDefinition(" ∧ Plain "ProgramStatement(" ∧ Plain "UseStatement(" ∧
    Plain "SourceFile(" := by
  and_intros <;> exact plain_of_list rfl

@[simp] theorem plain_append (front back : String) :
    Plain (front ++ back) ↔ Plain front ∧ Plain back := by
  simp only [Plain, String.toList_append, List.forall_mem_append]

@[simp] theorem plain_bracketed (items : List String) :
    Plain (bracketed items) ↔ ∀ item ∈ items, Plain item := by
  have inner : Plain (String.intercalate ", " items) ↔ ∀ item ∈ items, Plain item := by
    induction items with
    | nil => simp
    | cons item items induction =>
        cases items with
        | nil => simp
        | cons next items =>
            rw [String.intercalate_cons_cons, plain_append, plain_append, induction]
            simp
  simp [bracketed, inner]

@[simp] theorem plain_or_absent (part : Option String) :
    Plain (orAbsent part) ↔ ∀ text, part = some text → Plain text := by
  cases part with
  | none => simp [orAbsent]
  | some text => simp [orAbsent]

end Plain

namespace Expression

/-- What was written in front and what comes behind is left as it is. -/
theorem pieces_between_eq (expression : Expression) (front back : List String) :
    piecesBetween front back expression =
      front.reverse ++ piecesBetween [] [] expression ++ back := by
  induction expression generalizing front back with
  | range left right _ left_ih right_ih =>
      -- The right operand is in what comes behind the left one, so both sides open the left first.
      simp only [piecesBetween]
      rw [left_ih, left_ih ["Range("], right_ih, right_ih [] [")"]]
      simp
  | _ => simp [piecesBetween]

theorem text_range (left right : Expression) (location : Location) :
    (range left right location).text = "Range(" ++ left.text ++ ", " ++ right.text ++ ")" := by
  simp only [text, piecesBetween]
  rw [pieces_between_eq, pieces_between_eq right]
  simp [String.append_assoc]

end Expression

def PlainLeaves (leaves : List Leaf) : Prop :=
  ∀ leaf ∈ leaves, Plain leaf.text

namespace PlainLeaves

@[simp] theorem nil : PlainLeaves [] := by simp [PlainLeaves]

@[simp] theorem cons (leaf : Leaf) (leaves : List Leaf) :
    PlainLeaves (leaf :: leaves) ↔ Plain leaf.text ∧ PlainLeaves leaves := by
  simp [PlainLeaves]

@[simp] theorem append (front back : List Leaf) :
    PlainLeaves (front ++ back) ↔ PlainLeaves front ∧ PlainLeaves back :=
  List.forall_mem_append

@[simp] theorem flat_map (flatten : α → List Leaf) (values : List α) :
    PlainLeaves (values.flatMap flatten) ↔ ∀ value ∈ values, PlainLeaves (flatten value) :=
  List.forall_mem_flatMap

@[simp] theorem joined (mark : Mark) (flatten : α → List Leaf) (values : List α) :
    PlainLeaves (joined mark flatten values) ↔ ∀ value ∈ values, PlainLeaves (flatten value) := by
  cases values with
  | nil => simp [Sierra.joined]
  | cons first others => simp [Sierra.joined, Leaf.mark]

@[simp] theorem elim (flatten : α → List Leaf) (part : Option α) :
    PlainLeaves (part.elim [] flatten) ↔
      ∀ value, part = some value → PlainLeaves (flatten value) := by
  cases part <;> simp

end PlainLeaves

@[simp] theorem Identifier.plain_leaves (identifier : Identifier) :
    PlainLeaves identifier.flatten ↔ Plain identifier.name := by
  simp [flatten]

theorem Expression.plain_iff (expression : Expression) :
    Plain expression.text ↔ PlainLeaves expression.flatten := by
  induction expression with
  | range left right location left_ih right_ih =>
      simp [text_range, flatten, Leaf.mark, left_ih, right_ih]
  | number text location => simp [Expression.text, piecesBetween, flatten]
  | identifier identifier => simp [Expression.text, piecesBetween, flatten]
  | arrayType base index element location =>
      simp [Expression.text, piecesBetween, flatten, Leaf.mark, Leaf.keyword, and_assoc]

theorem QualifiedIdentifier.plain_iff (path : QualifiedIdentifier) :
    Plain path.text ↔ PlainLeaves path.flatten := by
  unfold text flatten
  simp [names]

theorem Statement.plain_iff (statement : Statement) :
    Plain statement.text ↔ PlainLeaves statement.flatten := by
  unfold text flatten
  simp [Expression.plain_iff, Leaf.mark]

theorem Block.plain_iff (block : Block) : Plain block.text ↔ PlainLeaves block.flatten := by
  unfold text flatten
  simp [Expression.plain_iff, Statement.plain_iff, Leaf.keyword]

theorem Mutability.plain (mutability : Mutability) :
    Plain mutability.text ∧ PlainLeaves mutability.flatten := by
  cases mutability <;> simp [text, flatten, Leaf.keyword]

theorem Parameter.plain_iff (parameter : Parameter) :
    Plain parameter.text ↔ PlainLeaves parameter.flatten := by
  unfold text flatten
  cases parameter.specifier <;> simp [Specifier.text, Specifier.flatten, Mutability.plain,
    Leaf.mark, Leaf.keyword]

theorem ParameterList.plain_iff (list : ParameterList) :
    Plain list.text ↔ PlainLeaves list.flatten := by
  unfold text flatten
  simp [Parameter.plain_iff, Leaf.mark]

theorem Visibility.plain (visibility : Visibility) :
    Plain visibility.text ∧ PlainLeaves visibility.flatten := by
  cases visibility <;> simp [text, flatten, Leaf.keyword]

theorem FunctionDefinition.plain_iff (definition : FunctionDefinition) :
    Plain definition.text ↔ PlainLeaves definition.flatten := by
  unfold text flatten
  simp [Visibility.plain, ParameterList.plain_iff, QualifiedIdentifier.plain_iff,
    Block.plain_iff, Leaf.mark, Leaf.keyword, and_assoc]

theorem ImplementationBlock.plain_iff (block : ImplementationBlock) :
    Plain block.text ↔ PlainLeaves block.flatten := by
  unfold text flatten
  simp [FunctionDefinition.plain_iff, Leaf.keyword]

theorem TypeDefinition.plain_iff (definition : TypeDefinition) :
    Plain definition.text ↔ PlainLeaves definition.flatten := by
  unfold text flatten
  simp [Expression.plain_iff, Leaf.mark, Leaf.keyword]

theorem ProgramStatement.plain_iff (statement : ProgramStatement) :
    Plain statement.text ↔ PlainLeaves statement.flatten := by
  unfold text flatten
  simp [Leaf.mark, Leaf.keyword]

theorem UseStatement.plain_iff (statement : UseStatement) :
    Plain statement.text ↔ PlainLeaves statement.flatten := by
  unfold text flatten
  simp [QualifiedIdentifier.plain_iff, Leaf.mark, Leaf.keyword]

/-- A unit is written in one line if its names and numbers are. -/
theorem SyntaxUnit.plain_iff (unit : SyntaxUnit) : Plain unit.text ↔ PlainLeaves unit.flatten := by
  cases unit with
  | use statement => exact statement.plain_iff
  | program statement => exact statement.plain_iff
  | type definition => exact definition.plain_iff
  | implementation block => exact block.plain_iff

theorem SourceFile.plain_iff (file : SourceFile) :
    Plain file.text ↔ PlainLeaves (file.units.flatMap SyntaxUnit.flatten) := by
  unfold text
  simp [SyntaxUnit.plain_iff]

theorem plain_of_mark : ∀ c, MarkCharacter c → ' ' ≤ c ∧ c ≤ '~' := by
  unfold MarkCharacter
  exact forall_of_all (by decide)

theorem plain_of_digit {c : Char} (digit : Digit c) : ' ' ≤ c ∧ c ≤ '~' :=
  ⟨Char.le_trans (by decide) digit.1, Char.le_trans digit.2 (by decide)⟩

theorem plain_to_string (number : Nat) : Plain (toString number) :=
  fun c member => plain_of_digit (digits_of_to_string number c member)

theorem plain_spaces (width : Nat) : Plain (Text.spaces width) := by
  intro c member
  obtain ⟨-, rfl⟩ : width ≠ 0 ∧ c = ' ' := by simpa [Text.spaces] using member
  decide

theorem plain_of_lexeme {text : String} (lexeme : IsLexeme text.toList) : Plain text := by
  intro c member
  rcases character_of_lexeme lexeme c member with
    digit | ((⟨low, high⟩ | ⟨low, high⟩) | rfl) | mark
  · exact plain_of_digit digit
  · exact ⟨Char.le_trans (by decide) low, Char.le_trans high (by decide)⟩
  · exact ⟨Char.le_trans (by decide) low, Char.le_trans high (by decide)⟩
  · decide
  · exact plain_of_mark c mark

/-- The tokens of a text have no characters that cannot be printed. -/
theorem Tiles.plain_leaves {here finish : Location} {text : List Char} {tokens : List Token}
    (tiles : Tiles here text tokens finish) : PlainLeaves (leaves tokens) := by
  intro leaf member
  obtain ⟨token, inside, rfl⟩ := List.mem_map.mp member
  obtain ⟨front, back, stands⟩ := tiles.stands token inside
  unfold Token.leaf
  split
  · exact plain_of_lexeme (is_lexeme_of_spells stands.spells)
  · exact plain_empty

end Sierra
