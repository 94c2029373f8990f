import Sierra.Proofs.Tree.Parts

/-!
# How derivations are put together

What a part is derived from is made of what its items are derived from, one behind another. This is
all that is needed of a rule to count the tokens of a part, to find its names and numbers among them
and to find the tokens of the parts inside it.
-/

namespace Sierra

set_option autoImplicit false

variable {α β : Type}

def Part.Derived : Part → List Token → Prop
  | tree node, tokens => node.rule.phrase tokens node
  | name identifier, tokens => Identifier.phrase tokens identifier

def Item.Derived : Item → List Token → Prop
  | own leaf, tokens => leaves tokens = [leaf]
  | part inner, tokens => inner.Derived tokens

/-- The tokens are those of the items, one behind another. -/
inductive Composed : List Item → List Token → Prop where
  | nil : Composed [] []
  | cons {item items front back} :
      item.Derived front → Composed items back → Composed (item :: items) (front ++ back)

namespace Composed

variable {items items' : List Item} {tokens front back : List Token}

theorem single {item : Item} (derived : item.Derived tokens) : Composed [item] tokens := by
  simpa using cons derived nil

theorem append (first : Composed items front) (second : Composed items' back) :
    Composed (items ++ items') (front ++ back) := by
  induction first with
  | nil => exact second
  | cons derived _ induction =>
      rw [List.append_assoc]
      exact cons derived induction

theorem split (composed : Composed (items ++ items') tokens) :
    ∃ front back, tokens = front ++ back ∧ Composed items front ∧ Composed items' back := by
  induction items generalizing tokens with
  | nil => exact ⟨[], tokens, rfl, nil, composed⟩
  | cons item items induction =>
      cases composed with
      | @cons _ _ first rest derived composed =>
          obtain ⟨front, back, rfl, before, behind⟩ := induction composed
          exact ⟨first ++ front, back, (List.append_assoc ..).symm, cons derived before, behind⟩

theorem flat_map {f : Item → List β} {g : Token → List β} (composed : Composed items tokens)
    (each : ∀ item ∈ items, ∀ tokens, item.Derived tokens → f item = tokens.flatMap g) :
    items.flatMap f = tokens.flatMap g := by
  induction composed with
  | nil => rfl
  | cons derived _ induction =>
      rw [List.flatMap_cons, List.flatMap_append, each _ List.mem_cons_self _ derived,
        induction fun item inside => each item (List.mem_cons_of_mem _ inside)]

end Composed

namespace Phrase

def Derives (phrase : Phrase α) (item : α → Item) : Prop :=
  ∀ tokens value, phrase tokens value → (item value).Derived tokens

def Composes (phrase : Phrase α) (items : α → List Item) : Prop :=
  ∀ tokens value, phrase tokens value → Composed (items value) tokens

variable {phrase : Phrase α} {item : α → Item} {items : α → List Item}

theorem Derives.composes (derives : phrase.Derives item) :
    phrase.Composes fun value => [item value] :=
  fun tokens value derived => .single (derives tokens value derived)

namespace Composes

theorem map {f : β → α} {phrase : Phrase β}
    (composes : phrase.Composes fun part => items (f part)) : (f <$> phrase).Composes items := by
  intro tokens value derivation
  obtain ⟨part, derived, rfl⟩ := derivation
  exact composes tokens part derived

theorem optional (composes : phrase.Composes items) :
    phrase.optional.Composes fun part => part.elim [] items := by
  intro tokens part derivation
  rcases derivation with ⟨rfl, rfl⟩ | ⟨inner, derived, rfl⟩
  · exact .nil
  · exact composes tokens inner derived

theorem many (composes : phrase.Composes items) :
    phrase.many.Composes fun values => values.flatMap items := by
  intro tokens values derived
  induction derived with
  | done => exact .nil
  | round derived _ induction =>
      dsimp only
      rw [List.flatMap_cons]
      exact (composes _ _ derived).append induction

theorem behind (composes : phrase.Composes items) (mark : Mark) :
    (phrase.behind (.punctuation mark)).Composes fun value => .mark mark :: items value := by
  intro tokens value derivation
  obtain ⟨front, back, token, rfl, opening, derived⟩ := derivation
  exact .cons (leaves_of_mark opening) (composes back value derived)

end Composes

theorem Derives.many (derives : phrase.Derives item) :
    phrase.many.Composes fun values => values.map item := by
  intro tokens values derived
  dsimp only
  rw [List.map_eq_flatMap]
  exact derives.composes.many tokens values derived

theorem Repeats.of_append_single {tokens : List Token} {values : List α} {last : α}
    (derived : Repeats phrase tokens (values ++ [last])) : ∃ front back,
      tokens = front ++ back ∧ Repeats phrase front values ∧ phrase back last := by
  induction values generalizing tokens with
  | nil =>
      cases derived with
      | @round front _ _ _ derived nothing =>
          cases nothing
          exact ⟨[], front, by simp, .done, derived⟩
  | cons value values induction =>
      cases derived with
      | @round first _ _ _ derived others =>
          obtain ⟨front, back, rfl, before, behind⟩ := induction others
          exact ⟨first ++ front, back, (List.append_assoc ..).symm, .round derived before, behind⟩

end Phrase

open Phrase

theorem Identifier.derives : Identifier.phrase.Derives .name :=
  fun _ _ => id

theorem QualifiedIdentifier.derives :
    QualifiedIdentifier.phrase.Derives fun path => .tree (.qualifiedIdentifier path) :=
  fun _ path derived => ⟨path, derived, rfl⟩

theorem Expression.derives : Expression.phrase.Derives fun value => .tree (.expression value) :=
  fun _ value derived => ⟨value, derived, rfl⟩

theorem QualifiedIdentifier.composes : QualifiedIdentifier.phrase.Composes items := by
  intro tokens path derivation
  obtain ⟨front, back, _, others, rfl, ⟨first, derived, rfl⟩, derived', rfl⟩ := derivation
  have names := (Identifier.derives.composes.behind .dot).many back others derived'
  exact .cons derived names

namespace Expression

theorem array_composes : arrayPhrase.Composes fun array =>
    [.mark .leftBracket, .name array.1, .mark .rightBracket, .keyword .of, .name array.2] := by
  intro tokens array derivation
  obtain ⟨opening, _, bracket, rfl, open', _, last, _, element, rfl, ⟨_, word, _, of', rfl,
    ⟨first, closing, _, bracket', rfl, ⟨index, indexed, rfl⟩, closed, rfl⟩, word', rfl⟩, named,
    rfl⟩ := derivation
  simp only [List.append_assoc]
  exact .cons (leaves_of_mark open') <| .cons indexed <| .cons (leaves_of_mark closed) <|
    .cons (leaves_of_keyword word') <| .single named

theorem operand_composes : operandPhrase.Composes Expression.items := by
  intro tokens operand derivation
  rcases derivation with ⟨token, ⟨rfl, single⟩, rfl⟩ | ⟨name, derived, rfl⟩ |
    ⟨front, back, _, array, rfl, ⟨base, derived, rfl⟩, derived', rfl⟩
  · have kind : token.kind = .number := by simpa using single
    have leaf : leaves [token] = [⟨.number, token.lexeme⟩] := by simp [leaves, Token.leaf, kind]
    exact .single leaf
  · exact Identifier.derives.composes tokens name derived
  · exact .cons derived (array_composes back array derived')

/-- The range that is read last is around all the others. -/
theorem composes : Expression.phrase.Composes Expression.items := by
  intro tokens expression derivation
  obtain ⟨front, back, _, others, rfl, ⟨first, derived, rfl⟩, derived', rfl⟩ := derivation
  rcases List.eq_nil_or_concat others with rfl | ⟨others, last, rfl⟩
  · cases derived'
    simpa using operand_composes front first derived
  · rw [List.concat_eq_append] at derived' ⊢
    obtain ⟨middle, _, rfl, before, opening, behind, token, rfl, opened, operand⟩ :=
      derived'.of_append_single
    dsimp only
    rw [List.foldl_append, ← List.append_assoc]
    have left : Expression.phrase (front ++ middle) _ :=
      ⟨front, middle, _, others, rfl, ⟨first, derived, rfl⟩, before, rfl⟩
    have right : Expression.phrase behind last :=
      ⟨behind, [], _, [], by simp, ⟨last, operand, rfl⟩, .done, rfl⟩
    exact .cons (derives _ _ left) <| .cons (leaves_of_mark opened) <| .single (derives _ _ right)

end Expression

theorem Statement.composes : Statement.phrase.Composes Statement.items := by
  intro tokens statement derivation
  obtain ⟨_, last, _, _, rfl, ⟨front, back, _, assignment, rfl, ⟨expression, derived, rfl⟩,
    derived', rfl⟩, closed, rfl⟩ := derivation
  have assigned :=
    (Expression.derives.composes.behind .colonEquals).optional back assignment derived'
  rw [List.append_assoc]
  exact .cons (Expression.derives _ _ derived) <| assigned.append <| .single (leaves_of_mark closed)

theorem Statement.derives :
    Statement.phrase.Derives fun statement => .tree (.statement statement) :=
  fun _ statement derived => ⟨statement, derived, rfl⟩

theorem Block.composes : Block.phrase.Composes Block.items := by
  intro tokens block derivation
  obtain ⟨_, last, _, _, rfl, ⟨front, _, _, _, rfl, ⟨opening, opened, rfl⟩, ⟨middle, back, _, tail,
    rfl, ⟨statements, derived, rfl⟩, derived', rfl⟩, rfl⟩, closed, rfl⟩ := derivation
  have parts := Statement.derives.many middle statements derived
  have value := Expression.derives.composes.optional back tail derived'
  rw [List.append_assoc]
  exact .cons (leaves_of_keyword opened) <| (parts.append value).append <|
    .single (leaves_of_keyword closed)

theorem Block.derives : Block.phrase.Derives fun block => .tree (.block block) :=
  fun _ block derived => ⟨block, derived, rfl⟩

/-- A word that only the form of a tree stands for is written as the tree says. -/
theorem Mutability.composes :
    Mutability.phrase.Composes fun mutability => mutability.flatten.map .own := by
  intro tokens mutability derivation
  rcases derivation with ⟨token, derived, rfl⟩ | ⟨token, derived, rfl⟩
  · exact .single (leaves_of_keyword derived)
  · exact .single (leaves_of_keyword derived)

theorem Specifier.composes : Specifier.phrase.Composes Specifier.items := by
  intro tokens specifier derivation
  rcases derivation with ⟨name, derived, rfl⟩ | ⟨token, derived, rfl⟩
  · exact .single derived
  · exact .single (leaves_of_mark derived)

theorem Parameter.composes : Parameter.phrase.Composes Parameter.items := by
  intro tokens parameter derivation
  obtain ⟨_, _, _, -, ⟨_, last, _, _, rfl, ⟨front, back, _, specifier, rfl, ⟨mutability, derived,
    rfl⟩, derived', rfl⟩, closed, rfl⟩, rfl⟩ := derivation
  have modifier := Mutability.composes.optional front mutability derived
  have named := Specifier.composes back specifier derived'
  exact .append (modifier.append named) <| .single (leaves_of_keyword closed)

theorem Parameter.derives :
    Parameter.phrase.Derives fun parameter => .tree (.parameter parameter) :=
  fun _ parameter derived => ⟨parameter, derived, rfl⟩

theorem ParameterList.composes : ParameterList.phrase.Composes ParameterList.items := by
  intro tokens list derivation
  obtain ⟨_, last, _, _, rfl, ⟨_, back, _, others, rfl, ⟨opening, front, _, first, rfl,
    ⟨open', opened, rfl⟩, derived, rfl⟩, derived', rfl⟩, closed, rfl⟩ := derivation
  have parameters := (Parameter.derives.composes.behind .comma).many back others derived'
  rw [List.append_assoc opening]
  exact .append (.cons (leaves_of_mark opened) <| .cons (Parameter.derives _ _ derived) parameters)
    (.single (leaves_of_mark closed))

theorem ParameterList.derives :
    ParameterList.phrase.Derives fun list => .tree (.parameterList list) :=
  fun _ list derived => ⟨list, derived, rfl⟩

theorem Visibility.composes :
    Visibility.phrase.Composes fun visibility => visibility.flatten.map .own := by
  intro tokens visibility derivation
  rcases derivation with ⟨token, derived, rfl⟩ | ⟨token, derived, rfl⟩
  · exact .single (leaves_of_keyword derived)
  · exact .single (leaves_of_keyword derived)

theorem FunctionDefinition.composes :
    FunctionDefinition.phrase.Composes FunctionDefinition.items := by
  intro tokens definition derivation
  obtain ⟨_, _, _, -, ⟨_, last, _, body, rfl, ⟨_, middle, _, returnType, rfl, ⟨_, list, _,
    parameters, rfl, ⟨_, front, _, name, rfl, ⟨opening, word, _, _, rfl, ⟨visibility, modified,
    rfl⟩, opened, rfl⟩, named, rfl⟩, listed, rfl⟩, typed, rfl⟩, derived, rfl⟩, rfl⟩ := derivation
  have modifier := Visibility.composes.optional opening visibility modified
  have between := ParameterList.derives.composes.optional list parameters listed
  have result :=
    (QualifiedIdentifier.derives.composes.behind .colon).optional middle returnType typed
  rw [List.append_assoc opening word, List.append_assoc opening, List.append_assoc word]
  exact .append (.append (modifier.append <| .cons (leaves_of_keyword opened) <|
    .cons named between) result) (.single (Block.derives _ _ derived))

theorem FunctionDefinition.derives :
    FunctionDefinition.phrase.Derives fun definition => .tree (.functionDefinition definition) :=
  fun _ definition derived => ⟨definition, derived, rfl⟩

theorem ImplementationBlock.composes :
    ImplementationBlock.phrase.Composes ImplementationBlock.items := by
  intro tokens block derivation
  obtain ⟨_, last, _, _, rfl, ⟨_, back, _, functions, rfl, ⟨opening, front, _, name, rfl,
    ⟨word, opened, rfl⟩, named, rfl⟩, derived, rfl⟩, closed, rfl⟩ := derivation
  have members := FunctionDefinition.derives.many back functions derived
  rw [List.append_assoc opening]
  exact .append (.cons (leaves_of_keyword opened) <| .cons named members)
    (.single (leaves_of_keyword closed))

theorem TypeDefinition.composes : TypeDefinition.phrase.Composes TypeDefinition.items := by
  intro tokens definition derivation
  obtain ⟨_, last, _, _, rfl, ⟨_, back, _, value, rfl, ⟨_, middle, _, _, rfl, ⟨opening, front, _,
    name, rfl, ⟨word, opened, rfl⟩, named, rfl⟩, equal, rfl⟩, derived, rfl⟩, closed,
    rfl⟩ := derivation
  simp only [List.append_assoc]
  exact .cons (leaves_of_keyword opened) <| .cons named <| .cons (leaves_of_mark equal) <|
    .cons (Expression.derives _ _ derived) <| .single (leaves_of_mark closed)

theorem ProgramStatement.composes : ProgramStatement.phrase.Composes ProgramStatement.items := by
  intro tokens statement derivation
  obtain ⟨_, last, _, _, rfl, ⟨opening, front, _, name, rfl, ⟨word, opened, rfl⟩, named, rfl⟩,
    closed, rfl⟩ := derivation
  rw [List.append_assoc]
  exact .cons (leaves_of_keyword opened) <| .cons named <| .single (leaves_of_mark closed)

theorem UseStatement.composes : UseStatement.phrase.Composes UseStatement.items := by
  intro tokens statement derivation
  obtain ⟨_, last, _, _, rfl, ⟨opening, front, _, path, rfl, ⟨word, opened, rfl⟩, derived, rfl⟩,
    closed, rfl⟩ := derivation
  rw [List.append_assoc]
  exact .cons (leaves_of_keyword opened) <| .cons (QualifiedIdentifier.derives _ _ derived) <|
    .single (leaves_of_mark closed)

theorem SyntaxUnit.composes : SyntaxUnit.phrase.Composes SyntaxUnit.items := by
  intro tokens member derivation
  rcases derivation with derived | derived | derived | derived
  all_goals
    obtain ⟨statement, derived, rfl⟩ := derived
    exact .single ⟨statement, derived, rfl⟩

theorem SyntaxUnit.derives : SyntaxUnit.phrase.Derives fun member => .tree (.syntaxUnit member) :=
  fun _ member derived => ⟨member, derived, rfl⟩

theorem SourceFile.composes : SourceFile.phrase.Composes SourceFile.items := by
  intro tokens file derivation
  obtain ⟨units, derived, rfl⟩ := derivation
  exact SyntaxUnit.derives.many tokens units derived

theorem Rule.composes (rule : Rule) : rule.phrase.Composes Node.items := by
  cases rule with
  | sourceFile => exact .map SourceFile.composes
  | syntaxUnit => exact .map SyntaxUnit.composes
  | useStatement => exact .map UseStatement.composes
  | programStatement => exact .map ProgramStatement.composes
  | typeDefinition => exact .map TypeDefinition.composes
  | implementationBlock => exact .map ImplementationBlock.composes
  | functionDefinition => exact .map FunctionDefinition.composes
  | parameterList => exact .map ParameterList.composes
  | parameter => exact .map Parameter.composes
  | block => exact .map Block.composes
  | statement => exact .map Statement.composes
  | expression => exact .map Expression.composes
  | qualifiedIdentifier => exact .map QualifiedIdentifier.composes

theorem Part.Derived.composed {part : Part} {tokens : List Token} (derived : part.Derived tokens) :
    Composed part.items tokens := by
  cases part with
  | tree node => exact node.rule.composes tokens node derived
  | name identifier =>
      obtain ⟨token, ⟨rfl, single⟩, rfl⟩ := derived
      have kind : token.kind = .identifier := by simpa using single
      have leaf : leaves [token] = [⟨.identifier, token.lexeme⟩] := by
        simp [leaves, Token.leaf, kind]
      exact .single leaf

theorem Composed.flatten_of_parts {items : List Item} {tokens : List Token}
    (composed : Composed items tokens) (inner : ∀ child, .part child ∈ items →
      ∀ tokens, child.Derived tokens → child.flatten = leaves tokens) :
    items.flatMap Item.flatten = leaves tokens := by
  have leaves_eq : ∀ tokens, leaves tokens = tokens.flatMap fun token => [token.leaf] :=
    fun _ => List.map_eq_flatMap
  rw [leaves_eq]
  refine composed.flat_map fun item inside tokens derived => ?_
  rw [← leaves_eq]
  cases item with
  | own leaf => exact derived.symm
  | part child => exact inner child inside tokens derived

theorem Part.Derived.flatten_eq {part : Part} {tokens : List Token}
    (derived : part.Derived tokens) : part.flatten = leaves tokens := by
  induction part using Part.induction generalizing tokens with
  | step part induction =>
      rw [← part.flatten_eq]
      exact derived.composed.flatten_of_parts fun child inside _ => induction child inside

theorem Composed.flatten_eq {items : List Item} {tokens : List Token}
    (composed : Composed items tokens) : items.flatMap Item.flatten = leaves tokens :=
  composed.flatten_of_parts fun _ _ _ => Part.Derived.flatten_eq

theorem Rule.derives {rule : Rule} {tokens : List Token} {node : Node}
    (derived : rule.phrase tokens node) : Part.Derived (.tree node) tokens := by
  obtain rfl := Rule.rule_of_phrase derived
  exact derived

theorem Rule.keeps (rule : Rule) (tokens : List Token) (node : Node)
    (derived : rule.phrase tokens node) : node.flatten = leaves tokens :=
  (Rule.derives derived).flatten_eq

theorem Part.Within.derived {outer inner : Part} {tokens span : List Token}
    (within : Within outer tokens inner span) (derived : outer.Derived tokens) :
    inner.Derived span := by
  induction within with
  | whole => exact derived
  | @inside outer child inner items items' front middle back span split before between _
      induction =>
      have composed := split ▸ derived.composed
      obtain ⟨front', _, same, first, second⟩ := composed.split
      cases second with
      | @cons _ _ middle' back' derived' _ =>
          -- Both ways to split the tokens have as many of them in front, so they are the same.
          have fronts : front.length = front'.length := by
            simpa [leaves] using congrArg List.length (before.trans first.flatten_eq)
          obtain ⟨-, behind⟩ := List.append_inj same fronts
          have middles : middle.length = middle'.length := by
            simpa [leaves] using
              congrArg List.length (between.trans (Part.Derived.flatten_eq derived'))
          obtain ⟨rfl, -⟩ := List.append_inj behind middles
          exact induction derived'

end Sierra
