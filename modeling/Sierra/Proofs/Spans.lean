import Sierra.Proofs.Grammar.Openings
import Sierra.Proofs.Texts

/-!
# Where the parts of a tree stand

When a text is read, each part of the tree takes a run of its tokens, and the location that the part
keeps is that of the first of them. The names and numbers of the tree are those of the tokens, in
the order of the text, and the text has each of them where the tree says.
-/

namespace Sierra

set_option autoImplicit false

def Token.mention? (token : Token) : Option Mention :=
  if token.kind = .number ∨ token.kind = .identifier then some ⟨token.lexeme, token.location⟩
  else none

theorem Token.mention_eq {token : Token} {mention : Mention}
    (found : token.mention? = some mention) :
    (token.kind = .number ∨ token.kind = .identifier) ∧
      mention = ⟨token.lexeme, token.location⟩ := by
  unfold Token.mention? at found
  split at found
  · exact ⟨‹_›, (Option.some.inj found).symm⟩
  · cases found

/-- Tokens among the items have only one spelling: names and numbers are in the parts. -/
def Silent (items : List Item) : Prop :=
  ∀ leaf, .own leaf ∈ items → leaf.kind ≠ .number ∧ leaf.kind ≠ .identifier

namespace Silent

variable {α : Type} {items : List Item}

@[simp] theorem nil : Silent [] := by simp [Silent]

@[simp] theorem cons_keyword (word : Keyword) : Silent (.keyword word :: items) ↔ Silent items := by
  simp [Silent, Leaf.keyword]

@[simp] theorem cons_mark (mark : Mark) : Silent (.mark mark :: items) ↔ Silent items := by
  simp [Silent, Leaf.mark]

@[simp] theorem cons_part (inner : Part) : Silent (.part inner :: items) ↔ Silent items := by
  simp [Silent]

@[simp] theorem append (front back : List Item) :
    Silent (front ++ back) ↔ Silent front ∧ Silent back := by
  constructor
  · intro silent
    exact ⟨fun leaf own => silent leaf (List.mem_append_left _ own),
      fun leaf own => silent leaf (List.mem_append_right _ own)⟩
  · rintro ⟨silent, silent'⟩ leaf own
    exact (List.mem_append.mp own).elim (silent leaf) (silent' leaf)

@[simp] theorem map_part (inner : α → Part) (values : List α) :
    Silent (values.map fun value => .part (inner value)) := by
  simp [Silent]

@[simp] theorem separated (mark : Mark) (inner : α → Part) (values : List α) :
    Silent (Item.separated mark (fun value => .part (inner value)) values) := by
  cases values with
  | nil => exact nil
  | cons first others =>
      intro leaf own
      obtain ⟨-, rfl⟩ : (∃ value, value ∈ others) ∧ leaf = .mark mark := by
        simpa [Item.separated] using own
      simp [Leaf.mark]

@[simp] theorem elim (items : α → List Item) (part : Option α) :
    Silent (part.elim [] items) ↔ ∀ value, part = some value → Silent (items value) := by
  cases part <;> simp

end Silent

@[simp] theorem Mutability.silent (mutability : Mutability) :
    Silent (mutability.flatten.map .own) := by
  cases mutability <;> simp [flatten]

@[simp] theorem Visibility.silent (visibility : Visibility) :
    Silent (visibility.flatten.map .own) := by
  cases visibility <;> simp [flatten]

namespace Part

/-- A part that mentions something itself is that one token. All other parts have names and numbers
only in the parts inside them. -/
theorem mention_cases (part : Part) :
    (part.mention? = none ∧ Silent part.items) ∨
    ∃ kind mention, (kind = .number ∨ kind = .identifier) ∧ part.mention? = some mention ∧
      part.items = [.own ⟨kind, mention.text⟩] ∧ part.location? = some mention.location := by
  cases part with
  | name identifier => exact .inr ⟨.identifier, _, .inr rfl, rfl, rfl, rfl⟩
  | tree node =>
      unfold items
      cases node with
      | expression value =>
          cases value with
          | number text location => exact .inr ⟨.number, _, .inl rfl, rfl, rfl, rfl⟩
          | _ => exact .inl ⟨rfl, by simp [Node.items, Expression.items]⟩
      | parameter single =>
          refine .inl ⟨rfl, ?_⟩
          obtain ⟨_, specifier, _⟩ := single
          cases specifier <;> simp [Node.items, Parameter.items, Specifier.items]
      | syntaxUnit member =>
          exact .inl ⟨rfl, by cases member <;> simp [Node.items, SyntaxUnit.items]⟩
      | sourceFile file => exact .inl ⟨rfl, by simp [Node.items, SourceFile.items]⟩
      | useStatement statement => exact .inl ⟨rfl, by simp [Node.items, UseStatement.items]⟩
      | programStatement statement => exact .inl ⟨rfl, by simp [Node.items, ProgramStatement.items]⟩
      | typeDefinition definition => exact .inl ⟨rfl, by simp [Node.items, TypeDefinition.items]⟩
      | implementationBlock members =>
          exact .inl ⟨rfl, by simp [Node.items, ImplementationBlock.items]⟩
      | functionDefinition definition =>
          exact .inl ⟨rfl, by simp [Node.items, FunctionDefinition.items]⟩
      | parameterList list => exact .inl ⟨rfl, by simp [Node.items, ParameterList.items]⟩
      | block body => exact .inl ⟨rfl, by simp [Node.items, Block.items]⟩
      | statement single => exact .inl ⟨rfl, by simp [Node.items, Statement.items]⟩
      | qualifiedIdentifier path =>
          exact .inl ⟨rfl, by simp [Node.items, QualifiedIdentifier.items]⟩

variable {part outer child inner : Part} {tokens span span' : List Token}

theorem Derived.mentions_eq (derived : part.Derived tokens) :
    part.mentions = tokens.filterMap Token.mention? := by
  induction part using Part.induction generalizing tokens with
  | step part induction =>
      rw [Part.mentions_eq, List.filterMap_eq_flatMap_toList]
      rcases part.mention_cases with ⟨nothing, silent⟩ | ⟨kind, mention, speaks, here, alone, kept⟩
      · rw [nothing]
        refine derived.composed.flat_map fun item member tokens derived => ?_
        cases item with
        | part child =>
            rw [← List.filterMap_eq_flatMap_toList]
            exact induction child member derived
        | own leaf =>
            obtain ⟨token, rfl, same⟩ := List.map_eq_singleton_iff.mp derived
            have quiet : token.kind ≠ .number ∧ token.kind ≠ .identifier := by
              obtain rfl := same
              exact silent _ member
            simp [Token.mention?, quiet, Item.mentions]
      -- Here the part is one token, which its location and its text are taken from.
      · have single : leaves tokens = [⟨kind, mention.text⟩] := by
          rw [← derived.flatten_eq, ← part.flatten_eq, alone]
          rfl
        obtain ⟨token, rfl, same⟩ := List.map_eq_singleton_iff.mp single
        obtain ⟨rfl, text⟩ := Leaf.mk.inj same
        obtain ⟨_, _, first, located⟩ := derived.begins kept
        obtain ⟨rfl, -⟩ := List.cons.inj first
        rw [if_pos speaks] at text
        simp [Token.mention?, speaks, here, alone, Item.mentions, text, ← located]

theorem Derived.child_within {items items' : List Item} (derived : part.Derived tokens)
    (split : part.items = items ++ .part child :: items') :
    ∃ span, Within part tokens child span := by
  obtain ⟨front, _, rfl, first, second⟩ := (split ▸ derived.composed).split
  cases second with
  | @cons _ _ span back derived' _ =>
      have between : child.flatten = leaves span := Part.Derived.flatten_eq derived'
      exact ⟨span, .inside split first.flatten_eq.symm between.symm .whole⟩

theorem Within.trans (within : Within outer tokens part span)
    (within' : Within part span inner span') : Within outer tokens inner span' := by
  induction within with
  | whole => exact within'
  | inside split before between _ induction =>
      exact .inside split before between (induction within')

/-- The part was derived from the tokens of the run, and all of it is written with them. If it keeps
a location, this is that of the first of them. -/
structure Stands (part : Part) (span : List Token) : Prop where
  derived : part.Derived span
  flatten : part.flatten = leaves span
  location : ∀ location, part.location? = some location →
    (span.head?.map fun first => first.location) = some location

theorem Derived.stands (derived : part.Derived span) : part.Stands span := by
  refine ⟨derived, derived.flatten_eq, ?_⟩
  intro location kept
  obtain ⟨first, rest, rfl, rfl⟩ := derived.begins kept
  rfl

end Part

namespace Tiles

variable {here finish : Location} {file : Option String} {tokens : List Token}

theorem mentions_increase {text : List Char} (tiles : Tiles here text tokens finish) :
    (tokens.filterMap Token.mention?).Pairwise fun first second =>
      first.location.offset < second.location.offset := by
  refine (List.pairwise_map.mp tiles.locations_increase).filterMap _ ?_
  intro first second before mention found mention' found'
  obtain ⟨-, rfl⟩ := Token.mention_eq found
  obtain ⟨-, rfl⟩ := Token.mention_eq found'
  exact before

theorem mention_stands {text : String}
    (tiles : Tiles (Location.start file) text.toList tokens finish) :
    ∀ mention ∈ tokens.filterMap Token.mention?, ∃ front back : String,
      text = front ++ mention.text ++ back ∧ mention.location.offset = front.utf8ByteSize := by
  intro mention member
  obtain ⟨token, inside, found⟩ := List.mem_filterMap.mp member
  obtain ⟨-, rfl⟩ := Token.mention_eq found
  obtain ⟨front, back, stands⟩ := tiles.stands token inside
  refine ⟨String.ofList front, String.ofList back, ?_, ?_⟩
  · rw [← String.toList_inj, stands.split]
    simp
  · rw [stands.location, Location.after_offset]
    exact Nat.zero_add _

end Tiles

/-- Every part of a tree that was read has its run of the tokens, and so has each part inside it. -/
theorem trees_keep_their_places {rule : Rule} {text : String} {file : Option String} {node : Node}
    (whole : Node.ofText rule text file = .ok node) : ∃ tokens finish,
      tokenize text file = .ok (tokens ++ [.endOfInput finish]) ∧
      (∀ part span, Part.Within (.tree node) tokens part span → part.Stands span ∧
        ∀ items child items', part.items = items ++ .part child :: items' →
          ∃ span', Part.Within part span child span' ∧
            Part.Within (.tree node) tokens child span') ∧
      ((Part.tree node).mentions.Pairwise fun first second =>
        first.location.offset < second.location.offset) ∧
      ∀ mention ∈ (Part.tree node).mentions, ∃ front back : String,
        text = front ++ mention.text ++ back ∧ mention.location.offset = front.utf8ByteSize := by
  obtain ⟨tokens, finish, reply, tiles, phrase⟩ := Node.tiles_of_text whole
  have derived := Rule.derives phrase
  rw [derived.mentions_eq]
  refine ⟨tokens, finish, reply, ?_, tiles.mentions_increase, tiles.mention_stands⟩
  intro part span within
  have derived' := within.derived derived
  refine ⟨derived'.stands, ?_⟩
  intro items child items' split
  obtain ⟨span', within'⟩ := derived'.child_within split
  exact ⟨span', within', within.trans within'⟩

/-- A range stands where its left operand does, here behind a blank. -/
theorem assigned_range_keeps_its_place : ∃ range assigned location,
    Node.ofText .statement " a..1 := b;" none = .ok (.statement ⟨range, assigned, location⟩) ∧
    range.location = ⟨1, 2, 1, none⟩ ∧
    ∀ mention ∈ (Part.tree (.statement ⟨range, assigned, location⟩)).mentions,
      ∃ front back : String, " a..1 := b;" = front ++ mention.text ++ back ∧
        mention.location.offset = front.utf8ByteSize := by
  let chain : List Token := [⟨.identifier, "a", ⟨1, 2, 1, none⟩⟩,
    ⟨.punctuation .dotDot, "..", ⟨1, 3, 2, none⟩⟩, ⟨.number, "1", ⟨1, 5, 4, none⟩⟩]
  let others : List Token := [⟨.punctuation .colonEquals, ":=", ⟨1, 7, 6, none⟩⟩,
    ⟨.identifier, "b", ⟨1, 10, 9, none⟩⟩, ⟨.punctuation .semicolon, ";", ⟨1, 11, 10, none⟩⟩]
  have reads : tokenize " a..1 := b;" none =
      .ok ((chain ++ others) ++ [.endOfInput ⟨1, 12, 11, none⟩]) := rfl
  let range : Expression := .range (.identifier ⟨"a", ⟨1, 2, 1, none⟩⟩)
    (.number "1" ⟨1, 5, 4, none⟩) ⟨1, 2, 1, none⟩
  let assigned : Expression := .identifier ⟨"b", ⟨1, 10, 9, none⟩⟩
  have whole : (Rule.statement.readWhole (Input.mk (chain ++ others) ⟨1, 12, 11, none⟩)).1 =
      .ok (.statement ⟨range, some assigned, ⟨1, 2, 1, none⟩⟩) := rfl
  rw [← Node.of_text_eq .statement reads (by decide)] at whole
  obtain ⟨tokens, finish, reply, parts, -, mentioned⟩ := trees_keep_their_places whole
  obtain rfl := List.append_inj_left' (Except.ok.inj (reply.symm.trans reads)) rfl
  have within : Part.Within (.tree (.statement ⟨range, some assigned, ⟨1, 2, 1, none⟩⟩))
      (chain ++ others) (.tree (.expression range)) chain :=
    @Part.Within.inside _ _ _ [] _ [] chain others _ rfl rfl rfl .whole
  refine ⟨range, some assigned, _, whole, ?_, mentioned⟩
  have place := (parts _ chain within).1.location _ rfl
  exact (Option.some.inj place).symm

end Sierra
