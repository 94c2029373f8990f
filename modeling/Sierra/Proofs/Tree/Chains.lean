import Sierra.Proofs.Tree.Relocation
import Sierra.Proofs.Tree.Text

/-!
# Chains are walked, not nested

Expressions are compared, copied and written by loops along their chains. Read by recursion on the
tree instead, two expressions are the same when they agree node by node, and the text of a range has
the texts of its operands in it. The loops come to just that, whatever the form of the tree.
-/

namespace Sierra

set_option autoImplicit false

namespace Expression

/-- The same kind of node, with the same text, names and location, and the same operands. -/
inductive Same : Expression → Expression → Prop where
  | number {text text' location location'} :
      text = text' → location = location' → Same (number text location) (number text' location')
  | identifier {base base'} : base.name = base'.name → base.location = base'.location →
      Same (identifier base) (identifier base')
  | range {left left' right right' location location'} : Same left left' → Same right right' →
      location = location' → Same (range left right location) (range left' right' location')
  | arrayType {base base' index index' element element' location location'} :
      base = base' → index = index' → element = element' → location = location' →
      Same (arrayType base index element location) (arrayType base' index' element' location')

namespace Same

theorem refl (expression : Expression) : expression.Same expression := by
  induction expression with
  | number text location => exact number rfl rfl
  | identifier name => exact identifier rfl rfl
  | range left right location left_ih right_ih => exact range left_ih right_ih rfl
  | arrayType base index element location => exact arrayType rfl rfl rfl rfl

theorem eq {first second : Expression} (same : first.Same second) : first = second := by
  induction same with
  | number sameText sameLocation => rw [sameText, sameLocation]
  | @identifier base base' sameName sameLocation =>
      obtain ⟨name, location⟩ := base
      obtain ⟨name', location'⟩ := base'
      obtain rfl : name = name' := sameName
      obtain rfl : location = location' := sameLocation
      rfl
  | range _ _ sameLocation left_ih right_ih => rw [left_ih, right_ih, sameLocation]
  | arrayType sameBase sameIndex sameElement sameLocation =>
      rw [sameBase, sameIndex, sameElement, sameLocation]

end Same

/-- Comparing along the chain, from the outermost range inwards, misses no node. -/
theorem equal_iff_same (first second : Expression) :
    first.equal second = true ↔ first.Same second := by
  rw [equal_iff]
  constructor
  · rintro rfl
    exact Same.refl first
  · exact Same.eq

theorem equal_equivalence :
    Equivalence fun first second : Expression => first.equal second = true := by
  simp only [equal_iff]
  exact eq_equivalence

theorem comparing_and_copying_are_exact :
    (∀ first second : Expression, first.equal second = true ↔ first.Same second) ∧
    (∀ expression : Expression, expression.rebuild.Same expression) ∧
    Equivalence (fun first second : Expression => first.equal second = true) ∧
    ∀ expression : Expression, expression.rebuild.equal expression = true := by
  have copied : ∀ expression : Expression, expression.rebuild.Same expression := by
    intro expression
    rw [rebuild_eq]
    exact Same.refl expression
  exact ⟨equal_iff_same, copied, equal_equivalence,
    fun expression => (equal_iff_same _ _).mpr (copied expression)⟩

/-- The text by recursion on the tree. -/
def plainText : Expression → String
  | number text _ => String.join ["NumberLiteral(", text, ")"]
  | identifier name => String.join ["Identifier(", name.name, ")"]
  | range left right _ => String.join ["Range(", left.plainText, ", ", right.plainText, ")"]
  | arrayType base index element _ =>
      String.join ["ArrayTypeExpr(", base.name, ", ", index.name, ", ", element.name, ")"]

theorem text_eq_plain (expression : Expression) : expression.text = expression.plainText := by
  induction expression with
  | range left right location left_ih right_ih =>
      rw [text_range, left_ih, right_ih, plainText]
      simp [String.append_assoc]
  | _ => simp [text, piecesBetween, plainText, String.append_assoc]

/-- A leaf. A chain that was taken apart does not begin with a range. -/
def writeHead (write : Expression → String) : Expression → String
  | number text _ => String.join ["NumberLiteral(", text, ")"]
  | identifier name => String.join ["Identifier(", name.name, ")"]
  | range left right _ => String.join ["Range(", write left, ", ", write right, ")"]
  | arrayType base index element _ =>
      String.join ["ArrayTypeExpr(", base.name, ", ", index.name, ", ", element.name, ")"]

/-- The loop along a chain, which writes one opening for each link, then the head, and then the
right operands from the innermost one outwards. -/
def writeChain (write : Expression → String) (expression : Expression) : String :=
  let links := expression.chain.2
  String.join (links.map fun _ => "Range(") ++ expression.chain.1.writeHead write ++
    String.join (links.map fun link => String.join [", ", write link.right, ")"])

theorem write_head_text (head : Expression) : head.writeHead text = head.text := by
  rw [text_eq_plain]
  cases head with
  | range left right location => rw [plainText, writeHead, text_eq_plain, text_eq_plain]
  | _ => rfl

/-- One opening more makes no difference in front of the others or behind them. -/
theorem openings_comm (opening : String) (links : List Link) :
    String.join (links.map fun _ => opening) ++ opening =
      opening ++ String.join (links.map fun _ => opening) := by
  induction links with
  | nil => simp
  | cons link links induction =>
      rw [List.map_cons, String.join_cons, String.append_assoc, induction]

theorem text_extend (head : Expression) (links : List Link) :
    (head.extend links).text = String.join (links.map fun _ => "Range(") ++ head.text ++
      String.join (links.map fun link => String.join [", ", link.right.text, ")"]) := by
  -- From the innermost link outwards.
  induction links generalizing head with
  | nil => simp [extend]
  | cons link links induction =>
      have onward : head.extend (link :: links) =
          (range head link.right link.location).extend links := rfl
      rw [onward, induction, text_range, List.map_cons, List.map_cons, String.join_cons,
        String.join_cons, ← openings_comm]
      simp only [String.join_cons, String.join_nil, String.append_assoc, String.append_empty]

theorem text_eq_loop (expression : Expression) : expression.text = expression.writeChain text := by
  calc expression.text = (ofChain expression.chain).text := by rw [of_chain_chain]
    _ = expression.writeChain text := by rw [ofChain, text_extend, writeChain, write_head_text]

theorem text_relocate (move : Location → Location) (expression : Expression) :
    (expression.relocate move).text = expression.text := by
  induction expression with
  | range left right location left_ih right_ih =>
      rw [relocate, text_range, text_range, left_ih, right_ih]
  | _ => rfl

/-- All openings of a chain come before its innermost operand, and the text is still the nested
one. -/
theorem chains_write_nested_texts (expression : Expression) :
    expression.text = expression.writeChain text ∧ expression.text = expression.plainText ∧
      ∀ move, (expression.relocate move).text = expression.text :=
  ⟨text_eq_loop expression, text_eq_plain expression, fun move => text_relocate move expression⟩

end Expression

end Sierra
