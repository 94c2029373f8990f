import Sierra.Proofs.Layout
import Sierra.Proofs.Spans
import Sierra.Proofs.Text.Legible
import Sierra.Proofs.Tree.Chains

/-!
# The text of a tree says what it is

No location is in the text of a tree. Everything else can be told from it, provided that names and
numbers are words, as they are in every tree that was read.
-/

namespace Sierra

set_option autoImplicit false

section Relocation

variable (move : Location → Location)

@[simp] theorem QualifiedIdentifier.text_relocate (path : QualifiedIdentifier) :
    (path.relocate move).text = path.text := by
  have names : (path.relocate move).names = path.names := List.map_map ..
  unfold text
  rw [names]

attribute [local simp] Expression.text_relocate

@[simp] theorem Statement.text_relocate (statement : Statement) :
    (statement.relocate move).text = statement.text := by
  unfold text
  simp [relocate, Function.comp_def]

@[simp] theorem Block.text_relocate (block : Block) :
    (block.relocate move).text = block.text := by
  unfold text
  simp [relocate, Function.comp_def]

@[simp] theorem Parameter.text_relocate (parameter : Parameter) :
    (parameter.relocate move).text = parameter.text := by
  obtain ⟨_, specifier, _⟩ := parameter
  cases specifier <;> rfl

@[simp] theorem ParameterList.text_relocate (list : ParameterList) :
    (list.relocate move).text = list.text := by
  unfold text
  simp [relocate, Function.comp_def]

@[simp] theorem FunctionDefinition.text_relocate (definition : FunctionDefinition) :
    (definition.relocate move).text = definition.text := by
  unfold text
  simp [relocate, Function.comp_def, Identifier.relocate]

@[simp] theorem ImplementationBlock.text_relocate (block : ImplementationBlock) :
    (block.relocate move).text = block.text := by
  unfold text
  simp [relocate, Function.comp_def, Identifier.relocate]

@[simp] theorem TypeDefinition.text_relocate (definition : TypeDefinition) :
    (definition.relocate move).text = definition.text := by
  unfold text
  simp [relocate, Identifier.relocate]

@[simp] theorem ProgramStatement.text_relocate (statement : ProgramStatement) :
    (statement.relocate move).text = statement.text :=
  rfl

@[simp] theorem UseStatement.text_relocate (statement : UseStatement) :
    (statement.relocate move).text = statement.text := by
  unfold text
  simp [relocate]

@[simp] theorem SyntaxUnit.text_relocate (member : SyntaxUnit) :
    (member.relocate move).text = member.text := by
  cases member <;> simp [text, relocate]

@[simp] theorem SourceFile.text_relocate (file : SourceFile) :
    (file.relocate move).text = file.text := by
  unfold text
  simp [relocate, Function.comp_def]

/-- No location is written. -/
theorem Node.text_relocate (node : Node) : (node.relocate move).text = node.text := by
  cases node <;> simp [text, relocate]

end Relocation

def Part.Worded (part : Part) : Prop :=
  ∀ mention ∈ part.mentions, Unbroken mention.text

namespace Part.Worded

variable {part child : Part}

theorem inside (worded : part.Worded) (member : .part child ∈ part.items) : child.Worded := by
  intro mention inner
  apply worded
  rw [mentions_eq]
  exact List.mem_append_right _ (List.mem_flatMap.mpr ⟨_, member, inner⟩)

theorem mention {mention : Mention} (worded : part.Worded) (here : part.mention? = some mention) :
    Unbroken mention.text := by
  apply worded
  rw [mentions_eq, here]
  exact List.mem_append_left _ (List.mem_singleton_self mention)

end Part.Worded

/-- Values with the same text have the same view. The text begins with a letter, which neither an
absent part nor the end of a list does. -/
structure Told {α β : Type} (part : α → Part) (view : α → β) (text : α → String) : Prop where
  legible : Legible (fun value => (part value).Worded) view text
  head : ∀ value, ∃ c, (text value).toList.head? = some c ∧ Letter c

namespace Told

variable {α β γ : Type} {part : α → Part} {view : α → β} {text : α → String}

theorem leads (told : Told part view text) {other : Char} (different : ¬Letter other) :
    Leads (fun value => (part value).Worded) (· ≠ other) text := by
  intro value _
  obtain ⟨c, head, letter⟩ := told.head value
  exact ⟨c, head, fun same => different (same ▸ letter)⟩

theorem alike (told : Told part view text) {first second : α} (worded : (part first).Worded)
    (worded' : (part second).Worded) (same : text first = text second) :
    view first = view second :=
  (told.legible first second [] [] worded worded' stops_nil stops_nil (by rw [same])).1

theorem optional (told : Told part view text) :
    Legible (fun inner => ∀ value, inner = some value → (part value).Worded) (Option.map view)
      (fun inner => orAbsent (inner.map text)) :=
  told.legible.optional (told.leads (by decide))

theorem bracketed (told : Told part view text) :
    Legible (fun values => ∀ value ∈ values, (part value).Worded) (List.map view)
      (fun values => Sierra.bracketed (values.map text)) :=
  told.legible.bracketed (told.leads (by decide))

end Told

/-- Legible texts that begin with the same character. -/
structure Opened {α β : Type} (c : Char) (valid : α → Prop) (view : α → β) (write : α → String) :
    Prop where
  legible : Legible valid view write
  head : ∀ value, (write value).toList.head? = some c

namespace Opened

variable {α β γ δ : Type} {c : Char} {valid : α → Prop} {view : α → β} {write : α → String}

/-- The kind of a tree, in front of its first part. -/
theorem first (c : Char) (opening : String) (head : opening.toList.head? = some c)
    (legible : Legible valid view write) :
    Opened c valid view fun value => opening ++ write value :=
  ⟨legible.opened opening, fun _ => head_append head _⟩

theorem next {valid' : α → Prop} {view' : α → γ} {write' : α → String}
    (opened : Opened c valid view write) (legible : Legible valid' view' write') :
    Opened c (fun value => valid value ∧ valid' value) (fun value => (view value, view' value))
      (fun value => write value ++ ", " ++ write' value) :=
  ⟨opened.legible.beside legible, fun value => head_append (head_append (opened.head value) _) _⟩

theorem told {part : α → Part} {view' : α → δ} {text : α → String}
    (opened : Opened c valid view write) (letter : Letter c)
    (written : ∀ value, text value = write value ++ ")")
    (fits : ∀ value, (part value).Worded → valid value)
    (seen : ∀ first second, view first = view second → view' first = view' second) :
    Told part view' text := by
  refine ⟨opened.legible.closed.imp fits seen written, fun value => ⟨c, ?_, letter⟩⟩
  rw [written]
  exact head_append (opened.head value) _

end Opened

theorem Identifier.legible :
    Legible (fun name => (Part.name name).Worded) (relocate Location.erase) (·.name) :=
  Legible.word.comap Identifier.name |>.imp (fun _ worded => worded.mention rfl)
    (fun _ _ same => by simp_all [relocate, Location.erase]) (fun _ => rfl)

theorem Identifier.leads {other : Char} (different : ¬Token.Kind.identifier.Continues other) :
    Leads (fun name => (Part.name name).Worded) (· ≠ other) (·.name) := by
  have characters : ∀ c, Token.Kind.identifier.Continues c → c ≠ other := by
    rintro c goesOn rfl
    exact different goesOn
  exact fun name worded => Unbroken.leads characters name.name (worded.mention rfl)

/-- No mark of a list or a specifier goes on with a word. -/
theorem not_continues_of_mark :
    ¬Token.Kind.identifier.Continues ']' ∧ ¬Token.Kind.identifier.Continues ':' := by
  unfold Token.Kind.Continues
  decide

theorem QualifiedIdentifier.told :
    Told (fun path => .tree (.qualifiedIdentifier path)) (relocate Location.erase) text := by
  have names := Identifier.legible.bracketed (Identifier.leads not_continues_of_mark.1)
  refine Opened.first 'Q' "QualifiedIdentifier(" rfl (names.comap segments)
    |>.told (by decide) (fun _ => rfl) ?_ ?_
  · intro path worded segment member
    exact worded.inside (Item.mem_separated.mpr ⟨segment, member, rfl⟩)
  · intro first second same
    simp_all [relocate]

namespace Expression

theorem text_number (text : String) (location : Location) :
    (number text location).text = "NumberLiteral(" ++ text ++ ")" := by
  simp [Expression.text, piecesBetween]

theorem text_identifier (base : Identifier) :
    (identifier base).text = "Identifier(" ++ base.name ++ ")" := by
  simp [text, piecesBetween]

theorem text_array (base index element : Identifier) (location : Location) :
    (arrayType base index element location).text =
      "ArrayTypeExpr(" ++ base.name ++ ", " ++ index.name ++ ", " ++ element.name ++ ")" := by
  simp [text, piecesBetween]

def letter : Expression → Char
  | number _ _ => 'N'
  | identifier _ => 'I'
  | range _ _ _ => 'R'
  | arrayType _ _ _ _ => 'A'

theorem text_head (expression : Expression) :
    expression.text.toList.head? = some expression.letter := by
  cases expression with
  | number text location =>
      rw [text_number]
      exact head_append (head_append rfl _) _
  | identifier base =>
      rw [text_identifier]
      exact head_append (head_append rfl _) _
  | range left right location =>
      rw [text_range]
      iterate 4 apply head_append
      rfl
  | arrayType base index element location =>
      rw [text_array]
      iterate 6 apply head_append
      rfl

theorem array_worded {base index element : Identifier} {location : Location}
    (worded : (Part.tree (.expression (arrayType base index element location))).Worded) :
    ((Part.name base).Worded ∧ (Part.name index).Worded) ∧ (Part.name element).Worded := by
  refine ⟨⟨worded.inside ?_, worded.inside ?_⟩, worded.inside ?_⟩ <;>
    simp [Part.items, Node.items, items]

theorem range_worded {left right : Expression} {location : Location}
    (worded : (Part.tree (.expression (range left right location))).Worded) :
    (Part.tree (.expression left)).Worded ∧ (Part.tree (.expression right)).Worded := by
  refine ⟨worded.inside ?_, worded.inside ?_⟩ <;> simp [Part.items, Node.items, items]

/-- The names of an array type, in a row. -/
theorem array_legible : Legible
    (fun names : (Identifier × Identifier) × Identifier => ((Part.name names.1.1).Worded ∧
      (Part.name names.1.2).Worded) ∧ (Part.name names.2).Worded)
    (fun names => ((names.1.1.relocate Location.erase, names.1.2.relocate Location.erase),
      names.2.relocate Location.erase))
    (fun names => "ArrayTypeExpr(" ++ names.1.1.name ++ ", " ++ names.1.2.name ++ ", " ++
      names.2.name ++ ")") :=
  (Identifier.legible.comap fun names : (Identifier × Identifier) × Identifier => names.1.1)
    |>.opened "ArrayTypeExpr("
    |>.beside (Identifier.legible.comap fun names => names.1.2)
    |>.beside (Identifier.legible.comap fun names => names.2)
    |>.closed

theorem legible : Legible (fun value => (Part.tree (.expression value)).Worded)
    (relocate Location.erase) text := by
  -- Each kind of expression begins with a letter of its own, so only equal kinds are compared.
  intro first
  induction first with
  | number text location =>
      intro second behind behind' worded worded' stops stops' same
      have letters := head_unique (text_head _) (text_head _) same
      cases second with
      | number text' location' =>
          rw [text_number, text_number] at same
          obtain ⟨rfl, ended⟩ := (Legible.word.opened "NumberLiteral(").closed text text' behind
            behind' (worded.mention rfl) (worded'.mention rfl) stops stops' same
          exact ⟨rfl, ended⟩
      | _ => simp [letter] at letters
  | identifier base =>
      intro second behind behind' worded worded' stops stops' same
      have letters := head_unique (text_head _) (text_head _) same
      cases second with
      | identifier base' =>
          rw [text_identifier, text_identifier] at same
          obtain ⟨alike, ended⟩ := (Identifier.legible.opened "Identifier(").closed base base'
            behind behind' (worded.inside List.mem_cons_self) (worded'.inside List.mem_cons_self)
            stops stops' same
          exact ⟨congrArg identifier alike, ended⟩
      | _ => simp [letter] at letters
  | arrayType base index element location =>
      intro second behind behind' worded worded' stops stops' same
      have letters := head_unique (text_head _) (text_head _) same
      cases second with
      | arrayType base' index' element' location' =>
          rw [text_array, text_array] at same
          obtain ⟨alike, ended⟩ := array_legible ((base, index), element)
            ((base', index'), element') behind behind' (array_worded worded)
            (array_worded worded') stops stops' same
          simp only [Prod.mk.injEq] at alike
          simp [relocate, alike, ended, Location.erase]
      | _ => simp [letter] at letters
  | range left right location left_ih right_ih =>
      intro second behind behind' worded worded' stops stops' same
      have letters := head_unique (text_head _) (text_head _) same
      cases second with
      | range left' right' location' =>
          rw [text_range, text_range] at same
          -- The left operand ends where the comma is, and only then the right one can be told.
          obtain ⟨alike, rest⟩ := left_ih left' (',' :: ' ' :: (right.text.toList ++ ')' :: behind))
            (',' :: ' ' :: (right'.text.toList ++ ')' :: behind')) (range_worded worded).1
            (range_worded worded').1 (stops_of_closing (by simp) _) (stops_of_closing (by simp) _)
            (by simpa using same)
          obtain ⟨alike', ended⟩ := right_ih right' (')' :: behind) (')' :: behind')
            (range_worded worded).2 (range_worded worded').2 (stops_of_closing (by simp) _)
            (stops_of_closing (by simp) _) (by simpa using rest)
          rw [relocate, relocate, alike, alike']
          exact ⟨rfl, (List.cons.inj ended).2⟩
      | _ => simp [letter] at letters

theorem told :
    Told (fun value => .tree (.expression value)) (relocate Location.erase) text := by
  refine ⟨legible, fun value => ⟨_, value.text_head, ?_⟩⟩
  cases value <;> simp only [letter] <;> decide

end Expression

theorem Statement.told :
    Told (fun statement => .tree (.statement statement)) (relocate Location.erase) text := by
  refine Opened.first 'S' "Statement(" rfl (Expression.told.legible.comap expression)
    |>.next (Expression.told.optional.comap assignment)
    |>.told (by decide) (fun _ => rfl) ?_ ?_
  · intro statement worded
    refine ⟨worded.inside List.mem_cons_self, fun value assigned => worded.inside ?_⟩
    simp [Part.items, Node.items, items, assigned]
  · intro first second same
    simp_all [relocate, Location.erase]

theorem Block.told : Told (fun block => .tree (.block block)) (relocate Location.erase) text := by
  refine Opened.first 'B' "Block(" rfl (Statement.told.bracketed.comap statements)
    |>.next (Expression.told.optional.comap tail)
    |>.told (by decide) (fun _ => rfl) ?_ ?_
  · intro block worded
    refine ⟨fun statement member => worded.inside ?_, fun value here => worded.inside ?_⟩
    · simp [Part.items, Node.items, items, member]
    · simp [Part.items, Node.items, items, here]
  · intro first second same
    simp_all [relocate, Location.erase]

theorem Mutability.legible : Legible (fun _ => True) id text := by
  intro first second behind behind' _ _ _ _ same
  cases first <;> cases second <;> simp_all [text]

theorem Mutability.leads (valid : Mutability → Prop) : Leads valid (· ≠ '_') text := by
  intro mutability _
  cases mutability with
  | const => exact ⟨'c', rfl, by decide⟩
  | mutable => exact ⟨'m', rfl, by decide⟩

def Specifier.Worded : Specifier → Prop
  | named identifier => (Part.name identifier).Worded
  | colon => True

theorem Specifier.legible : Legible Worded (relocate Location.erase) text := by
  have colon_apart : ∀ base : Identifier, (Part.name base).Worded → ∀ behind behind',
      base.name.toList ++ behind ≠ ":".toList ++ behind' := by
    intro base worded behind behind' same
    obtain ⟨c, head, different⟩ := Identifier.leads not_continues_of_mark.2 base worded
    exact different (head_unique head rfl same)
  intro first second behind behind' worded worded' stops stops' same
  cases first with
  | named base =>
      cases second with
      | named base' =>
          obtain ⟨alike, ended⟩ :=
            Identifier.legible base base' behind behind' worded worded' stops stops' same
          exact ⟨congrArg named alike, ended⟩
      | colon => exact absurd same (colon_apart base worded _ _)
  | colon =>
      cases second with
      | named base' => exact absurd same.symm (colon_apart base' worded' _ _)
      | colon => exact ⟨rfl, List.append_cancel_left same⟩

theorem Parameter.told :
    Told (fun parameter => .tree (.parameter parameter)) (relocate Location.erase) text := by
  have modifier := Mutability.legible.optional (Mutability.leads _)
  refine Opened.first 'P' "Parameter(" rfl (modifier.comap mutability)
    |>.next (Specifier.legible.comap specifier)
    |>.told (by decide) (fun _ => rfl) ?_ ?_
  · intro parameter worded
    refine ⟨fun _ _ => trivial, ?_⟩
    cases here : parameter.specifier with
    | colon => trivial
    | named identifier =>
        exact worded.inside (by simp [Part.items, Node.items, items, here, Specifier.items])
  · intro first second same
    simp_all [relocate, Location.erase]

theorem ParameterList.told :
    Told (fun list => .tree (.parameterList list)) (relocate Location.erase) text := by
  refine Opened.first 'P' "ParameterList(" rfl (Parameter.told.bracketed.comap parameters)
    |>.told (by decide) (fun _ => rfl) ?_ ?_
  · intro list worded parameter member
    apply worded.inside
    simp [Part.items, Node.items, items, Item.mem_separated, member]
  · intro first second same
    simp_all [relocate, Location.erase]

theorem Visibility.legible : Legible (fun _ => True) id text := by
  intro first second behind behind' _ _ _ _ same
  cases first <;> cases second <;> simp_all [text]

theorem Visibility.leads (valid : Visibility → Prop) : Leads valid (· ≠ '_') text := by
  refine fun visibility _ => ⟨'p', ?_, by decide⟩
  cases visibility <;> rfl

theorem FunctionDefinition.told :
    Told (fun definition => .tree (.functionDefinition definition)) (relocate Location.erase)
      text := by
  have modifier := Visibility.legible.optional (Visibility.leads _)
  refine Opened.first 'F' "FunctionDefinition(" rfl (modifier.comap visibility)
    |>.next (Identifier.legible.comap name)
    |>.next (ParameterList.told.optional.comap parameters)
    |>.next (QualifiedIdentifier.told.optional.comap returnType)
    |>.next (Block.told.legible.comap body)
    |>.told (by decide) (fun _ => rfl) ?_ ?_
  · intro definition worded
    refine ⟨⟨⟨⟨fun _ _ => trivial, worded.inside ?_⟩, fun list here => worded.inside ?_⟩,
      fun path here => worded.inside ?_⟩, worded.inside ?_⟩
    all_goals simp [Part.items, Node.items, items, *]
  · intro first second same
    simp_all [relocate, Location.erase]

theorem ImplementationBlock.told :
    Told (fun block => .tree (.implementationBlock block)) (relocate Location.erase) text := by
  refine Opened.first 'I' "ImplementationBlock(" rfl (Identifier.legible.comap name)
    |>.next (FunctionDefinition.told.bracketed.comap functions)
    |>.told (by decide) (fun _ => rfl) ?_ ?_
  · intro block worded
    refine ⟨worded.inside ?_, fun definition member => worded.inside ?_⟩
    all_goals simp [Part.items, Node.items, items, *]
  · intro first second same
    simp_all [relocate, Location.erase]

theorem TypeDefinition.told :
    Told (fun definition => .tree (.typeDefinition definition)) (relocate Location.erase) text := by
  refine Opened.first 'T' "TypeDefinition(" rfl (Identifier.legible.comap name)
    |>.next (Expression.told.legible.comap value)
    |>.told (by decide) (fun _ => rfl) ?_ ?_
  · intro definition worded
    refine ⟨worded.inside ?_, worded.inside ?_⟩
    all_goals simp [Part.items, Node.items, items]
  · intro first second same
    simp_all [relocate, Location.erase]

theorem ProgramStatement.told :
    Told (fun statement => .tree (.programStatement statement)) (relocate Location.erase)
      text := by
  refine Opened.first 'P' "ProgramStatement(" rfl (Identifier.legible.comap name)
    |>.told (by decide) (fun _ => rfl) ?_ ?_
  · intro statement worded
    exact worded.inside (by simp [Part.items, Node.items, items])
  · intro first second same
    simp_all [relocate, Location.erase]

theorem UseStatement.told :
    Told (fun statement => .tree (.useStatement statement)) (relocate Location.erase) text := by
  refine Opened.first 'U' "UseStatement(" rfl (QualifiedIdentifier.told.legible.comap path)
    |>.told (by decide) (fun _ => rfl) ?_ ?_
  · intro statement worded
    exact worded.inside (by simp [Part.items, Node.items, items])
  · intro first second same
    simp_all [relocate, Location.erase]

namespace SyntaxUnit

def letter : SyntaxUnit → Char
  | use _ => 'U'
  | program _ => 'P'
  | type _ => 'T'
  | implementation _ => 'I'

theorem text_head (member : SyntaxUnit) : member.text.toList.head? = some member.letter := by
  cases member with
  | use statement => exact head_append (head_append rfl _) _
  | program statement => exact head_append (head_append rfl _) _
  | type definition =>
      iterate 4 apply head_append
      rfl
  | implementation block =>
      iterate 4 apply head_append
      rfl

theorem legible : Legible (fun member => (Part.tree (.syntaxUnit member)).Worded)
    (relocate Location.erase) text := by
  intro first second behind behind' worded worded' stops stops' same
  have letters := head_unique (text_head _) (text_head _) same
  cases first with
  | use statement =>
      cases second with
      | use statement' =>
          obtain ⟨alike, ended⟩ := UseStatement.told.legible statement statement' behind behind'
            (worded.inside List.mem_cons_self) (worded'.inside List.mem_cons_self) stops stops' same
          exact ⟨congrArg use alike, ended⟩
      | _ => simp [letter] at letters
  | program statement =>
      cases second with
      | program statement' =>
          obtain ⟨alike, ended⟩ := ProgramStatement.told.legible statement statement' behind behind'
            (worded.inside List.mem_cons_self) (worded'.inside List.mem_cons_self) stops stops' same
          exact ⟨congrArg program alike, ended⟩
      | _ => simp [letter] at letters
  | type definition =>
      cases second with
      | type definition' =>
          obtain ⟨alike, ended⟩ := TypeDefinition.told.legible definition definition' behind behind'
            (worded.inside List.mem_cons_self) (worded'.inside List.mem_cons_self) stops stops' same
          exact ⟨congrArg type alike, ended⟩
      | _ => simp [letter] at letters
  | implementation block =>
      cases second with
      | implementation block' =>
          obtain ⟨alike, ended⟩ := ImplementationBlock.told.legible block block' behind behind'
            (worded.inside List.mem_cons_self) (worded'.inside List.mem_cons_self) stops stops' same
          exact ⟨congrArg implementation alike, ended⟩
      | _ => simp [letter] at letters

theorem told :
    Told (fun member => .tree (.syntaxUnit member)) (relocate Location.erase) text := by
  refine ⟨legible, fun member => ⟨_, member.text_head, ?_⟩⟩
  cases member <;> simp only [letter] <;> decide

end SyntaxUnit

theorem SourceFile.told :
    Told (fun file => .tree (.sourceFile file)) (relocate Location.erase) text := by
  refine Opened.first 'S' "SourceFile(" rfl (SyntaxUnit.told.bracketed.comap units)
    |>.told (by decide) (fun _ => rfl) ?_ ?_
  · intro file worded member inside
    exact worded.inside (by simp [Part.items, Node.items, items, inside])
  · intro first second same
    simp_all [relocate]

/-- Trees of the same rule with the same text are the same but for their locations. -/
theorem Node.alike_of_text {rule : Rule} {tokens tokens' : List Token} {node node' : Node}
    (derived : rule.phrase tokens node) (derived' : rule.phrase tokens' node')
    (worded : (Part.tree node).Worded) (worded' : (Part.tree node').Worded)
    (same : node.text = node'.text) :
    node.relocate Location.erase = node'.relocate Location.erase := by
  cases rule <;> obtain ⟨tree, -, rfl⟩ := derived <;> obtain ⟨tree', -, rfl⟩ := derived'
  · exact congrArg sourceFile (SourceFile.told.alike worded worded' same)
  · exact congrArg syntaxUnit (SyntaxUnit.told.alike worded worded' same)
  · exact congrArg useStatement (UseStatement.told.alike worded worded' same)
  · exact congrArg programStatement (ProgramStatement.told.alike worded worded' same)
  · exact congrArg typeDefinition (TypeDefinition.told.alike worded worded' same)
  · exact congrArg implementationBlock (ImplementationBlock.told.alike worded worded' same)
  · exact congrArg functionDefinition (FunctionDefinition.told.alike worded worded' same)
  · exact congrArg parameterList (ParameterList.told.alike worded worded' same)
  · exact congrArg parameter (Parameter.told.alike worded worded' same)
  · exact congrArg block (Block.told.alike worded worded' same)
  · exact congrArg statement (Statement.told.alike worded worded' same)
  · exact congrArg expression (Expression.told.alike worded worded' same)
  · exact congrArg qualifiedIdentifier (QualifiedIdentifier.told.alike worded worded' same)

theorem unbroken_of_spells {kind : Token.Kind} {text : String}
    (spells : kind.Spells text.toList) (speaks : kind = .number ∨ kind = .identifier) :
    Unbroken text := by
  unfold Unbroken
  rw [ne_eq, ← String.toList_eq_nil_iff]
  rcases speaks with rfl | rfl
  · have number : IsNumber text.toList := spells
    cases characters : text.toList with
    | nil => exact absurd number (by simp [characters, IsNumber])
    | cons first tail =>
        rw [characters] at number
        exact ⟨List.cons_ne_nil _ _, List.forall_mem_cons.mpr
          ⟨.inr (.inl number.1), fun c member => .inr (number.2 c member)⟩⟩
  · have word : IsWord text.toList := spells.1
    cases characters : text.toList with
    | nil => exact absurd word (by simp [characters, IsWord])
    | cons first tail =>
        rw [characters] at word
        exact ⟨List.cons_ne_nil _ _, List.forall_mem_cons.mpr
          ⟨word.1.imp_right .inr, word.2⟩⟩

/-- What the tokens of a text mention are words. -/
theorem Tiles.mentions_unbroken {here finish : Location} {text : List Char} {tokens : List Token}
    (tiles : Tiles here text tokens finish) :
    ∀ mention ∈ tokens.filterMap Token.mention?, Unbroken mention.text := by
  intro mention member
  obtain ⟨token, inside, found⟩ := List.mem_filterMap.mp member
  obtain ⟨front, back, stands⟩ := tiles.stands token inside
  obtain ⟨speaks, rfl⟩ := Token.mention_eq found
  exact unbroken_of_spells stands.spells speaks

theorem Part.Derived.worded {here finish : Location} {text : List Char} {tokens : List Token}
    {part : Part} (derived : part.Derived tokens) (tiles : Tiles here text tokens finish) :
    part.Worded := by
  unfold Part.Worded
  rw [derived.mentions_eq]
  exact tiles.mentions_unbroken

theorem texts_determine_trees {rule : Rule} {text text' : String} {file file' : Option String}
    {node node' : Node} (whole : Node.ofText rule text file = .ok node)
    (whole' : Node.ofText rule text' file' = .ok node') :
    node.text = node'.text ↔ node.relocate Location.erase = node'.relocate Location.erase := by
  obtain ⟨tokens, finish, -, tiles, derived⟩ := Node.tiles_of_text whole
  obtain ⟨tokens', finish', -, tiles', derived'⟩ := Node.tiles_of_text whole'
  constructor
  · exact Node.alike_of_text derived derived' ((Rule.derives derived).worded tiles)
      ((Rule.derives derived').worded tiles')
  · intro alike
    rw [← node.text_relocate Location.erase, alike, node'.text_relocate]

/-- Spreading a range over two lines does not change its text, and exchanging its operands does. -/
theorem spread_range_is_written_alike : ∃ node node' other : Node,
    Node.ofText .expression "a..b" none = .ok node ∧
    Node.ofText .expression " a\n.. b" (some "f") = .ok node' ∧
    Node.ofText .expression "b..a" none = .ok other ∧
    node.text = node'.text ∧ node.text ≠ other.text := by
  let range (left right : Identifier) : Node :=
    .expression (.range (.identifier left) (.identifier right) left.location)
  have reads : Node.ofText .expression "a..b" none =
      .ok (range ⟨"a", ⟨1, 1, 0, none⟩⟩ ⟨"b", ⟨1, 4, 3, none⟩⟩) := by decide +kernel
  have reads' : Node.ofText .expression " a\n.. b" (some "f") =
      .ok (range ⟨"a", ⟨1, 2, 1, some "f"⟩⟩ ⟨"b", ⟨2, 4, 6, some "f"⟩⟩) := by decide +kernel
  have exchanged : Node.ofText .expression "b..a" none =
      .ok (range ⟨"b", ⟨1, 1, 0, none⟩⟩ ⟨"a", ⟨1, 4, 3, none⟩⟩) := by decide +kernel
  refine ⟨_, _, _, reads, reads', exchanged, (texts_determine_trees reads reads').mpr rfl, ?_⟩
  intro same
  have alike := (texts_determine_trees reads exchanged).mp same
  revert alike
  decide

end Sierra
