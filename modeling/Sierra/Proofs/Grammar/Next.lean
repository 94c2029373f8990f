import Sierra.Proofs.Grammar.Viable

/-!
# What may come next

The symbols with which a word can go on, and how they are found in the parts that a language is made
of. Inside the first of two languages that are apart they are those of the first, as long as the
word is not a sentence of it; behind a sentence they are those of the second, as long as something
of the second has been read. Only between the two do they come from both.
-/

namespace Sierra

set_option autoImplicit false

open scoped Computability

variable {Symbol : Type} {first second : Language Symbol}

def nexts (language : Language Symbol) (word : List Symbol) : Set Symbol :=
  {symbol | Viable language (word ++ [symbol])}

theorem nexts_one_add (language : Language Symbol) (word : List Symbol) :
    nexts (1 + language) word = nexts language word := by
  ext symbol
  obtain ⟨head, tail, same⟩ : ∃ head tail, word ++ [symbol] = head :: tail :=
    List.exists_cons_of_ne_nil (by simp)
  change Viable (1 + language) (word ++ [symbol]) ↔ Viable language (word ++ [symbol])
  rw [same]
  constructor
  · exact viable_of_one_add
  · intro viable
    obtain ⟨rest, sentence⟩ := viable
    exact ⟨rest, .inr sentence⟩

theorem nexts_kstar (language : Language Symbol) (word : List Symbol) :
    nexts language∗ word = nexts (language * language∗) word := by
  conv_lhs => rw [← Language.one_add_self_mul_kstar_eq_kstar]
  exact nexts_one_add _ word

/-- The first symbol tells which of two languages goes on. -/
theorem nexts_add_left {head : Symbol} (away : ¬Viable second [head]) (word : List Symbol) :
    nexts (first + second) (head :: word) = nexts first (head :: word) := by
  ext symbol
  constructor
  · intro viable
    exact viable_of_add viable away
  · intro viable
    obtain ⟨rest, sentence⟩ := viable
    exact ⟨rest, .inl sentence⟩

theorem nexts_left_subset (word : List Symbol) (inhabited : ∃ other, other ∈ second) :
    nexts first word ⊆ nexts (first * second) word :=
  fun _ viable => viable_mul_left viable inhabited

theorem nexts_right_subset {front : List Symbol} (sentence : front ∈ first) (back : List Symbol) :
    nexts second back ⊆ nexts (first * second) (front ++ back) := by
  intro symbol viable
  have longer := viable_mul_right sentence viable
  rwa [← List.append_assoc] at longer

/-- Where the first language is not left, the second only adds what it begins with, and this only
behind a sentence. -/
theorem Apart.nexts_inside (apart : Apart first second) {word : List Symbol} {symbol : Symbol}
    (viable : Viable first word) (goesOn : symbol ∈ nexts (first * second) word) :
    symbol ∈ nexts first word ∨ (word ∈ first ∧ Viable second [symbol]) := by
  by_cases inside : symbol ∈ nexts first word
  · exact .inl inside
  · rcases viable_mul_cases goesOn with viable' | ⟨front, back, same, sentence, viable'⟩
    · exact absurd viable' inside
    · have stops : ∀ head, [symbol].head? = some head → ¬Viable first (word ++ [head]) := by
        intro head heads
        obtain rfl : symbol = head := by simpa using heads
        exact inside
      obtain ⟨rfl, rfl⟩ := apart.split_unique same viable stops sentence viable'
      exact .inr ⟨sentence, viable'⟩

/-- Behind a sentence of the first language that does not go on, the first only adds something while
nothing of the second has been read. -/
theorem Apart.nexts_behind (apart : Apart first second) {front back : List Symbol} {symbol : Symbol}
    (sentence : front ∈ first)
    (stops : ∀ head, back.head? = some head → ¬Viable first (front ++ [head]))
    (goesOn : symbol ∈ nexts (first * second) (front ++ back)) :
    symbol ∈ nexts second back ∨ (back = [] ∧ symbol ∈ nexts first front) := by
  have viable : Viable (first * second) (front ++ (back ++ [symbol])) := by
    rw [← List.append_assoc]
    exact goesOn
  cases back with
  | nil =>
      by_cases inside : symbol ∈ nexts first front
      · exact .inr ⟨rfl, inside⟩
      · left
        apply apart.viable_behind sentence (by simp) _ viable
        intro head heads
        obtain rfl : symbol = head := by simpa using heads
        exact inside
  | cons other back =>
      left
      exact apart.viable_behind sentence (by simp) (fun head heads => stops head heads) viable

end Sierra
