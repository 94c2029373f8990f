import Sierra.Proofs.Grammar.Flatten

/-!
# The parts of a tree

A part is a tree of a rule, or a name in one. It is written as items one behind another: tokens of
its own and smaller parts. So when a part was read from a run of tokens, each part inside it was
read from a run within that one, which is found by counting what stands in front. The names and
numbers of a part, in the order in which they are written, are what it mentions.
-/

namespace Sierra

set_option autoImplicit false

variable {α : Type}

inductive Part where
  | tree (node : Node)
  | name (identifier : Identifier)

inductive Item where
  | own (leaf : Leaf)
  | part (part : Part)

namespace Item

abbrev keyword (word : Keyword) : Item :=
  own (.keyword word)

abbrev mark (mark : Mark) : Item :=
  own (.mark mark)

abbrev tree (node : Node) : Item :=
  part (.tree node)

abbrev name (identifier : Identifier) : Item :=
  part (.name identifier)

def separated (mark : Mark) (item : α → Item) : List α → List Item
  | [] => []
  | first :: others => item first :: others.flatMap fun other => [.mark mark, item other]

end Item

section Items

def QualifiedIdentifier.items (path : QualifiedIdentifier) : List Item :=
  Item.separated .dot .name path.segments

def Expression.items : Expression → List Item
  | number text _ => [.own ⟨.number, text⟩]
  | identifier base => [.name base]
  | range left right _ => [.tree (.expression left), .mark .dotDot, .tree (.expression right)]
  | arrayType base index element _ =>
      [.name base, .mark .leftBracket, .name index, .mark .rightBracket, .keyword .of,
        .name element]

def Statement.items (statement : Statement) : List Item :=
  .tree (.expression statement.expression) ::
    statement.assignment.elim [] (fun value => [.mark .colonEquals, .tree (.expression value)]) ++
    [.mark .semicolon]

def Block.items (block : Block) : List Item :=
  .keyword .beginBlock :: block.statements.map (fun statement => .tree (.statement statement)) ++
    block.tail.elim [] (fun value => [.tree (.expression value)]) ++ [.keyword .endBlock]

def Specifier.items : Specifier → List Item
  | named identifier => [.name identifier]
  | colon => [.mark .colon]

def Parameter.items (parameter : Parameter) : List Item :=
  parameter.mutability.elim [] (fun mutability => mutability.flatten.map .own) ++
    parameter.specifier.items ++ [.keyword .self]

def ParameterList.items (list : ParameterList) : List Item :=
  .mark .leftParen ::
    Item.separated .comma (fun parameter => .tree (.parameter parameter)) list.parameters ++
    [.mark .rightParen]

def FunctionDefinition.items (definition : FunctionDefinition) : List Item :=
  definition.visibility.elim [] (fun visibility => visibility.flatten.map .own) ++
    .keyword .function :: .name definition.name ::
    definition.parameters.elim [] (fun list => [.tree (.parameterList list)]) ++
    definition.returnType.elim [] (fun path =>
      [.mark .colon, .tree (.qualifiedIdentifier path)]) ++
    [.tree (.block definition.body)]

def ImplementationBlock.items (block : ImplementationBlock) : List Item :=
  .keyword .implementation :: .name block.name ::
    block.functions.map (fun definition => .tree (.functionDefinition definition)) ++
    [.keyword .endBlock]

def TypeDefinition.items (definition : TypeDefinition) : List Item :=
  [.keyword .type, .name definition.name, .mark .equals, .tree (.expression definition.value),
    .mark .semicolon]

def ProgramStatement.items (statement : ProgramStatement) : List Item :=
  [.keyword .program, .name statement.name, .mark .semicolon]

def UseStatement.items (statement : UseStatement) : List Item :=
  [.keyword .use, .tree (.qualifiedIdentifier statement.path), .mark .semicolon]

def SyntaxUnit.items : SyntaxUnit → List Item
  | use statement => [.tree (.useStatement statement)]
  | program statement => [.tree (.programStatement statement)]
  | type definition => [.tree (.typeDefinition definition)]
  | implementation block => [.tree (.implementationBlock block)]

def SourceFile.items (file : SourceFile) : List Item :=
  file.units.map fun member => .tree (.syntaxUnit member)

def Node.items : Node → List Item
  | sourceFile tree => tree.items
  | syntaxUnit tree => tree.items
  | useStatement tree => tree.items
  | programStatement tree => tree.items
  | typeDefinition tree => tree.items
  | implementationBlock tree => tree.items
  | functionDefinition tree => tree.items
  | parameterList tree => tree.items
  | parameter tree => tree.items
  | block tree => tree.items
  | statement tree => tree.items
  | expression tree => tree.items
  | qualifiedIdentifier tree => tree.items

end Items

/-- A file keeps no location, and a path only those of its names. -/
def Node.location? : Node → Option Location
  | sourceFile _ | qualifiedIdentifier _ => none
  | syntaxUnit tree => some tree.location
  | useStatement tree => some tree.location
  | programStatement tree => some tree.location
  | typeDefinition tree => some tree.location
  | implementationBlock tree => some tree.location
  | functionDefinition tree => some tree.location
  | parameterList tree => some tree.location
  | parameter tree => some tree.location
  | block tree => some tree.location
  | statement tree => some tree.location
  | expression tree => some tree.location

/-- A name or a number, with the location that a tree keeps for it. -/
structure Mention where
  text : String
  location : Location

namespace Part

def items : Part → List Item
  | tree node => node.items
  | name identifier => [.own ⟨.identifier, identifier.name⟩]

def flatten : Part → List Leaf
  | tree node => node.flatten
  | name identifier => identifier.flatten

def location? : Part → Option Location
  | tree node => node.location?
  | name identifier => some identifier.location

def mention? : Part → Option Mention
  | name identifier => some ⟨identifier.name, identifier.location⟩
  | tree (.expression (.number text location)) => some ⟨text, location⟩
  | tree _ => none

end Part

def Item.flatten : Item → List Leaf
  | own leaf => [leaf]
  | part inner => inner.flatten

section Flattening

@[simp] theorem Item.flatten_own (leaf : Leaf) : (own leaf).flatten = [leaf] := rfl

@[simp] theorem Item.flatten_tree (node : Node) : (tree node).flatten = node.flatten := rfl

@[simp] theorem Item.flatten_name (identifier : Identifier) :
    (name identifier).flatten = identifier.flatten := rfl

@[simp] theorem Item.flatten_separated (mark : Mark) (item : α → Item) (values : List α) :
    (separated mark item values).flatMap flatten =
      joined mark (fun value => (item value).flatten) values := by
  cases values with
  | nil => rfl
  | cons first others => simp [separated, joined, List.flatMap_assoc]

@[simp] theorem Item.flatten_own_map (leaves : List Leaf) :
    (leaves.map own).flatMap flatten = leaves := by
  simp [List.flatMap_map]

@[simp] theorem flat_map_elim {β γ : Type} (f : β → List γ) (g : α → List β) (part : Option α) :
    (part.elim [] g).flatMap f = part.elim [] (fun value => (g value).flatMap f) := by
  cases part <;> rfl

/-- Items are all that a part is written with. -/
theorem Part.flatten_eq (part : Part) : part.items.flatMap Item.flatten = part.flatten := by
  cases part with
  | name identifier => rfl
  | tree node =>
      unfold items flatten
      cases node with
      | sourceFile file => simp [Node.items, SourceFile.items, List.flatMap_map, Node.flatten]
      | syntaxUnit member =>
          cases member <;> simp [Node.items, SyntaxUnit.items, Node.flatten, SyntaxUnit.flatten]
      | useStatement statement =>
          simp [Node.items, UseStatement.items, Node.flatten, UseStatement.flatten]
      | programStatement statement =>
          simp [Node.items, ProgramStatement.items, Node.flatten, ProgramStatement.flatten]
      | typeDefinition definition =>
          simp [Node.items, TypeDefinition.items, Node.flatten, TypeDefinition.flatten]
      | implementationBlock members =>
          simp [Node.items, ImplementationBlock.items, Node.flatten, ImplementationBlock.flatten,
            List.flatMap_map]
      | functionDefinition definition =>
          simp [Node.items, FunctionDefinition.items, Node.flatten, FunctionDefinition.flatten]
      | parameterList list =>
          simp [Node.items, ParameterList.items, Node.flatten, ParameterList.flatten]
      | parameter single =>
          obtain ⟨_, specifier, _⟩ := single
          cases specifier <;> simp [Node.items, Parameter.items, Specifier.items, Node.flatten,
            Parameter.flatten, Specifier.flatten]
      | block body =>
          simp [Node.items, Block.items, Node.flatten, Block.flatten, List.flatMap_map]
      | statement single => simp [Node.items, Statement.items, Node.flatten, Statement.flatten]
      | expression value =>
          cases value <;> simp [Node.items, Expression.items, Node.flatten, Expression.flatten]
      | qualifiedIdentifier path =>
          simp [Node.items, QualifiedIdentifier.items, Node.flatten, QualifiedIdentifier.flatten]

end Flattening

theorem Item.mem_separated {mark : Mark} {item : α → Item} {values : List α} {child : Part} :
    .part child ∈ separated mark item values ↔ ∃ value ∈ values, item value = .part child := by
  cases values with
  | nil => simp [separated]
  | cons first others => simp [separated, eq_comm]

namespace Part

/-- A part that may be nothing but one smaller part ranks above that part. -/
def rank : Part → Nat
  | tree (.sourceFile _) => 3
  | tree (.syntaxUnit _) => 2
  | tree _ => 1
  | name _ => 0

/-- Where a part is nothing but smaller parts, these are of a lower rank. -/
theorem rank_lt_or_own {part child : Part} (inside : .part child ∈ part.items) :
    child.rank < part.rank ∨ ∃ leaf, .own leaf ∈ part.items := by
  cases part with
  | name identifier => simp [items] at inside
  | tree node =>
      unfold items at inside ⊢
      cases node with
      | sourceFile file =>
          obtain ⟨member, -, same⟩ := List.mem_map.mp inside
          cases same
          exact .inl (Nat.lt_succ_self 2)
      | syntaxUnit member =>
          left
          cases member <;> cases List.mem_singleton.mp inside <;> exact Nat.lt_succ_self 1
      | qualifiedIdentifier path =>
          obtain ⟨segment, -, same⟩ := Item.mem_separated.mp inside
          cases same
          exact .inl Nat.zero_lt_one
      | expression value =>
          cases value with
          | identifier base =>
              cases List.mem_singleton.mp inside
              exact .inl Nat.zero_lt_one
          | number text _ => exact .inr ⟨_, List.mem_cons_self⟩
          | range left right _ => exact .inr ⟨.mark .dotDot, by simp [Node.items, Expression.items]⟩
          | arrayType base index element _ =>
              exact .inr ⟨.keyword .of, by simp [Node.items, Expression.items]⟩
      | useStatement statement => exact .inr ⟨_, List.mem_cons_self⟩
      | programStatement statement => exact .inr ⟨_, List.mem_cons_self⟩
      | typeDefinition definition => exact .inr ⟨_, List.mem_cons_self⟩
      | implementationBlock block => exact .inr ⟨_, List.mem_cons_self⟩
      | functionDefinition definition =>
          exact .inr ⟨.keyword .function, by simp [Node.items, FunctionDefinition.items]⟩
      | parameterList list => exact .inr ⟨_, List.mem_cons_self⟩
      | parameter parameter => exact .inr ⟨.keyword .self, by simp [Node.items, Parameter.items]⟩
      | block block => exact .inr ⟨_, List.mem_cons_self⟩
      | statement statement =>
          exact .inr ⟨.mark .semicolon, by simp [Node.items, Statement.items]⟩

/-- Parts inside a part are written with fewer tokens, or with as many and of a lower rank. -/
theorem smaller {part child : Part} (inside : .part child ∈ part.items) :
    Prod.Lex (· < ·) (· < ·) (child.flatten.length, child.rank)
      (part.flatten.length, part.rank) := by
  obtain ⟨front, back, split⟩ := List.append_of_mem inside
  have whole : part.flatten =
      front.flatMap Item.flatten ++ (child.flatten ++ back.flatMap Item.flatten) := by
    rw [← part.flatten_eq, split]
    simp [Item.flatten]
  rw [Prod.lex_def, whole, List.length_append, List.length_append]
  rcases rank_lt_or_own inside with lower | ⟨leaf, own⟩
  · dsimp only
    omega
  -- A token of its own is one that the part inside does not have.
  · have beside : leaf ∈ front.flatMap Item.flatten ++ back.flatMap Item.flatten := by
      rw [split] at own
      rw [← List.flatMap_append]
      exact List.mem_flatMap.mpr ⟨.own leaf, by simpa using own, List.mem_singleton_self leaf⟩
    have positive := List.length_pos_of_mem beside
    rw [List.length_append] at positive
    dsimp only
    omega

/-- What holds of a part if it holds of all parts inside it holds of every part. -/
@[elab_as_elim] theorem induction {motive : Part → Prop}
    (step : ∀ part, (∀ child, .part child ∈ part.items → motive child) → motive part)
    (part : Part) : motive part :=
  step part fun child _ => induction step child
termination_by (part.flatten.length, part.rank)
decreasing_by exact smaller ‹_›

/-- The names and numbers of a part, in the order in which they are written. -/
def mentions (part : Part) : List Mention :=
  part.mention?.toList ++ part.items.attach.flatMap fun
    | ⟨.part child, _⟩ => child.mentions
    | ⟨.own _, _⟩ => []
termination_by (part.flatten.length, part.rank)
decreasing_by exact smaller ‹_›

end Part

def Item.mentions : Item → List Mention
  | own _ => []
  | part inner => inner.mentions

theorem Part.mentions_eq (part : Part) :
    part.mentions = part.mention?.toList ++ part.items.flatMap Item.mentions := by
  have inner : part.items.flatMap Item.mentions =
      part.items.attach.flatMap fun item => item.val.mentions := by
    conv_lhs => rw [← List.attach_map_subtype_val part.items, List.flatMap_map]
  rw [mentions, inner]
  congr 2
  funext ⟨item, _⟩
  cases item <;> rfl

/-- The part `inner` with the run of tokens that is its own, when all of `outer` is written by the
given tokens. A part behind others begins where the tokens of these end. -/
inductive Part.Within : Part → List Token → Part → List Token → Prop where
  | whole {part : Part} {tokens : List Token} : Within part tokens part tokens
  | inside {outer child inner : Part} {items items' : List Item} {front middle back span} :
      outer.items = items ++ .part child :: items' → leaves front = items.flatMap Item.flatten →
      leaves middle = child.flatten → Within child middle inner span →
      Within outer (front ++ (middle ++ back)) inner span

end Sierra
