import Sierra.Proofs.Spans

/-!
# What holds in every tree that was read

The types of trees admit more than texts can be read as: names that are no words, numbers without a
digit, ranges nested to the right, empty lists of parameters and empty paths. None of these comes up
in a tree that was read, at whatever depth. The spelling of names and numbers is that of the tokens
they were taken from, and the rest is in the form of each rule.
-/

namespace Sierra

set_option autoImplicit false

inductive Part.Contains (outer : Part) : Part → Prop where
  | whole : Contains outer outer
  | inside {part child : Part} :
      Contains outer part → .part child ∈ part.items → Contains outer child

/-- What its type leaves open of a part, here one that was read from the run of tokens. -/
def Part.Valid : Part → List Token → Prop
  | name identifier, _ =>
      IsWord identifier.name.toList ∧ ∀ word : Keyword, identifier.name ≠ word.spelling
  | tree (.expression (.number text location)), _ =>
      IsNumber text.toList ∧ ∃ digits, (Expression.number text location).digits? = some digits ∧
        digits ≠ "" ∧ (∀ c ∈ digits.toList, Digit c) ∧
        digits.toList = text.toList.filter (· ≠ '_')
  | tree (.expression (.range _ right _)), _ =>
      ∀ left' right' location', right ≠ .range left' right' location'
  | tree (.parameterList list), _ => list.parameters ≠ []
  | tree (.qualifiedIdentifier path), _ => path.segments ≠ []
  | tree (.block body), span =>
      body.isEmpty = true ↔ kinds span = [.keyword .beginBlock, .keyword .endBlock]
  | tree _, _ => True

/-- A number has a digit besides its underscores. -/
theorem digits_of_number {text : String} (number : IsNumber text.toList) (location : Location) :
    ∃ digits, (Expression.number text location).digits? = some digits ∧ digits ≠ "" ∧
      (∀ c ∈ digits.toList, Digit c) ∧ digits.toList = text.toList.filter (· ≠ '_') := by
  obtain ⟨first, tail, characters, leading, others⟩ : ∃ first tail,
      text.toList = first :: tail ∧ Digit first ∧ ∀ c ∈ tail, Digit c ∨ c = '_' := by
    cases characters : text.toList with
    | nil => exact absurd number (by simp [characters, IsNumber])
    | cons first tail =>
        rw [characters] at number
        exact ⟨first, tail, rfl, number.1, number.2⟩
  refine ⟨_, rfl, ?_, ?_, by simp [bne, ← beq_eq_decide]⟩
  · have other : first ≠ '_' := fun same => absurd (same ▸ leading) (by decide)
    simp [characters, other, ← String.toList_inj]
  · intro c member
    obtain ⟨inside, other⟩ : c ∈ first :: tail ∧ c ≠ '_' := by simpa [characters] using member
    rcases List.mem_cons.mp inside with rfl | inside
    · exact leading
    · exact (others c inside).resolve_right other

namespace Expression

theorem operand_not_range {tokens : List Token} {operand : Expression}
    (derivation : operandPhrase tokens operand) (left right : Expression) (location : Location) :
    operand ≠ range left right location := by
  rcases derivation with ⟨token, -, rfl⟩ | ⟨name, -, rfl⟩ | ⟨_, _, _, array, -, ⟨base, -, rfl⟩, -,
    rfl⟩
  all_goals nofun

/-- The right operand of a range is the operand that was read last. -/
theorem right_of_range {tokens : List Token} {left right : Expression} {location : Location}
    (derivation : Expression.phrase tokens (range left right location)) :
    ∃ span, operandPhrase span right := by
  obtain ⟨front, back, _, others, -, ⟨first, derived, rfl⟩, derived', same⟩ := derivation
  rcases List.eq_nil_or_concat others with rfl | ⟨others, last, rfl⟩
  · exact absurd same.symm (operand_not_range derived left right location)
  · rw [List.concat_eq_append] at derived' same
    dsimp only at same
    rw [List.foldl_append] at same
    obtain ⟨_, _, -, -, opening, span, _, -, -, operand⟩ := derived'.of_append_single
    exact ⟨span, (range.inj same).2.1 ▸ operand⟩

theorem flatten_ne_nil (expression : Expression) : expression.flatten ≠ [] := by
  cases expression <;> simp [flatten, Identifier.flatten]

end Expression

theorem Statement.flatten_ne_nil (statement : Statement) : statement.flatten ≠ [] := by
  simp [flatten]

theorem map_kind_leaves (tokens : List Token) :
    (leaves tokens).map (·.kind) = kinds tokens := by
  simp [leaves, kinds, Token.leaf, Function.comp_def]

/-- A block without statements and without a value is written with two tokens, and every other one
with more. -/
theorem Block.is_empty_iff (body : Block) : body.isEmpty = true ↔
    body.flatten.map (·.kind) = [.keyword .beginBlock, .keyword .endBlock] := by
  obtain ⟨statements, tail, location⟩ := body
  constructor
  · intro empty
    obtain ⟨rfl, rfl⟩ : statements = [] ∧ tail = none := by simpa [isEmpty] using empty
    rfl
  · intro two
    have size := congrArg List.length two
    simp only [flatten, List.length_map, List.length_append, List.length_cons,
      List.length_nil] at size
    have none : statements.flatMap Statement.flatten = [] :=
      List.eq_nil_of_length_eq_zero (by omega)
    have absent : tail.elim [] Expression.flatten = [] :=
      List.eq_nil_of_length_eq_zero (by omega)
    cases tail with
    | some value => exact absurd absent value.flatten_ne_nil
    | none =>
        cases statements with
        | nil => rfl
        | cons statement others =>
            exact absurd (List.append_eq_nil_iff.mp none).1 statement.flatten_ne_nil

namespace Part

variable {part outer inner : Part} {tokens span : List Token}

theorem Within.subset (within : Within outer tokens inner span) : span ⊆ tokens := by
  induction within with
  | whole => exact List.Subset.refl _
  | @inside _ _ _ _ _ front middle back _ _ _ _ _ induction =>
      intro token member
      exact List.mem_append_right front (List.mem_append_left back (induction member))

/-- A part that is one name or number is spelled as its token is. -/
theorem Derived.spells {kind : Token.Kind} {text : String} (derived : part.Derived span)
    (spelled : Spelled span) (speaks : kind = .number ∨ kind = .identifier)
    (single : part.flatten = [⟨kind, text⟩]) : kind.Spells text.toList := by
  obtain ⟨token, rfl, same⟩ := List.map_eq_singleton_iff.mp (derived.flatten_eq.symm.trans single)
  obtain ⟨rfl, text⟩ := Leaf.mk.inj same
  rw [if_pos speaks] at text
  exact text ▸ spelled token List.mem_cons_self

theorem Derived.valid (derived : part.Derived span) (spelled : Spelled span) :
    part.Valid span := by
  cases part with
  | name identifier =>
      obtain ⟨word, free⟩ := derived.spells spelled (.inr rfl) rfl
      exact ⟨word, fun reserved same => free reserved (congrArg String.toList same)⟩
  | tree node =>
      cases node with
      | expression value =>
          cases value with
          | number text location =>
              have number : IsNumber text.toList := derived.spells spelled (.inl rfl) rfl
              exact ⟨number, digits_of_number number location⟩
          | range left right location =>
              obtain ⟨_, derived, same⟩ := derived
              obtain rfl := Node.expression.inj same
              obtain ⟨_, operand⟩ := Expression.right_of_range derived
              exact Expression.operand_not_range operand
          | _ => trivial
      | parameterList list =>
          obtain ⟨_, ⟨_, _, _, _, -, ⟨_, _, _, _, -, ⟨_, _, _, _, -, ⟨_, -, rfl⟩, -, rfl⟩, -, rfl⟩,
            -, rfl⟩, same⟩ := derived
          obtain rfl := Node.parameterList.inj same
          exact List.cons_ne_nil _ _
      | qualifiedIdentifier path =>
          obtain ⟨_, ⟨_, _, _, _, -, ⟨_, -, rfl⟩, -, rfl⟩, same⟩ := derived
          obtain rfl := Node.qualifiedIdentifier.inj same
          exact List.cons_ne_nil _ _
      | block body =>
          have written : body.flatten = leaves span := derived.flatten_eq
          change body.isEmpty = true ↔ _
          rw [body.is_empty_iff, written, map_kind_leaves]
      | _ => trivial

/-- Every part of a part that was derived has a run of its own. -/
theorem Derived.contained (derived : outer.Derived tokens) (contains : outer.Contains part) :
    ∃ span, Within outer tokens part span := by
  induction contains with
  | whole => exact ⟨tokens, .whole⟩
  | inside _ member induction =>
      obtain ⟨span, within⟩ := induction
      obtain ⟨items, items', split⟩ := List.append_of_mem member
      obtain ⟨span', within'⟩ := (within.derived derived).child_within split
      exact ⟨span', within.trans within'⟩

end Part

/-- Each part of a tree that was read has a run of the tokens, and is valid as one that was read
from it. -/
theorem trees_are_valid {rule : Rule} {text : String} {file : Option String} {node : Node}
    (whole : Node.ofText rule text file = .ok node) : ∃ tokens finish,
      tokenize text file = .ok (tokens ++ [.endOfInput finish]) ∧
      ∀ part, Part.Contains (.tree node) part →
        (∃ span, Part.Within (.tree node) tokens part span) ∧
        ∀ span, Part.Within (.tree node) tokens part span → part.Valid span := by
  obtain ⟨tokens, finish, reply, tiles, phrase⟩ := Node.tiles_of_text whole
  have derived := Rule.derives phrase
  refine ⟨tokens, finish, reply, ?_⟩
  intro part contains
  refine ⟨derived.contained contains, ?_⟩
  intro span within
  exact (within.derived derived).valid fun token member =>
    tiles.spelled token (within.subset member)

/-- Three levels inside a block there is a number with an underscore between its digits. -/
theorem grouped_number_is_valid : ∃ node tokens span,
    Node.ofText .block "begin 1_0..a; end" none = .ok node ∧
    Part.Within (.tree node) tokens (.tree (.expression (.number "1_0" ⟨1, 7, 6, none⟩))) span ∧
    Part.Valid (.tree node) tokens ∧
    Part.Valid (.tree (.expression (.number "1_0" ⟨1, 7, 6, none⟩))) span := by
  let number : Expression := .number "1_0" ⟨1, 7, 6, none⟩
  let range : Expression := .range number (.identifier ⟨"a", ⟨1, 12, 11, none⟩⟩) ⟨1, 7, 6, none⟩
  let statement : Statement := ⟨range, none, ⟨1, 7, 6, none⟩⟩
  let body : Node := .block ⟨[statement], none, ⟨1, 1, 0, none⟩⟩
  have whole : Node.ofText .block "begin 1_0..a; end" none = .ok body := by decide +kernel
  obtain ⟨tokens, finish, -, valid⟩ := trees_are_valid whole
  have first : Part.Contains (.tree body) (.tree (.statement statement)) :=
    .inside .whole (List.mem_cons_of_mem _ List.mem_cons_self)
  have second : Part.Contains (.tree body) (.tree (.expression range)) :=
    .inside first List.mem_cons_self
  have third : Part.Contains (.tree body) (.tree (.expression number)) :=
    .inside second List.mem_cons_self
  obtain ⟨⟨span, within⟩, each⟩ := valid _ third
  exact ⟨_, tokens, span, whole, within, (valid _ .whole).2 tokens .whole, each span within⟩

end Sierra
