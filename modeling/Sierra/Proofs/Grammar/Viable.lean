import Mathlib.Computability.Language

/-!
# Viable prefixes

A word is viable in a language when some sentence begins with it. Two languages are apart when
nothing that could go on behind a sentence of the first could also begin a sentence of the second;
a reader that looks at one symbol then never has to guess where the first sentence ends. An outline
bounds what a language begins with and what can go on behind its sentences, so that most languages
of a grammar are seen to be apart by comparing two lists.
-/

namespace Sierra

set_option autoImplicit false

open scoped Computability

variable {Symbol : Type} {first second : Language Symbol}

def Viable (language : Language Symbol) (word : List Symbol) : Prop :=
  ∃ rest, word ++ rest ∈ language

theorem viable_of_mem {language : Language Symbol} {word : List Symbol}
    (sentence : word ∈ language) :
    Viable language word :=
  ⟨[], by simpa using sentence⟩

theorem viable_of_append {language : Language Symbol} {front : List Symbol} (back : List Symbol)
    (viable : Viable language (front ++ back)) : Viable language front := by
  obtain ⟨rest, sentence⟩ := viable
  exact ⟨back ++ rest, by simpa using sentence⟩

theorem viable_head {language : Language Symbol} {symbol : Symbol} {word : List Symbol}
    (viable : Viable language (symbol :: word)) : Viable language [symbol] :=
  viable_of_append word (by simpa using viable)

theorem viable_mul_left {word : List Symbol} (viable : Viable first word)
    (inhabited : ∃ other, other ∈ second) : Viable (first * second) word := by
  obtain ⟨rest, sentence⟩ := viable
  obtain ⟨other, member⟩ := inhabited
  exact ⟨rest ++ other, by simpa using Language.append_mem_mul sentence member⟩

theorem viable_mul_right {front back : List Symbol} (sentence : front ∈ first)
    (viable : Viable second back) : Viable (first * second) (front ++ back) := by
  obtain ⟨rest, member⟩ := viable
  exact ⟨rest, by simpa using Language.append_mem_mul sentence member⟩

/-- A viable prefix of a product stops inside the first sentence or reaches into the second. -/
theorem viable_mul_cases {word : List Symbol} (viable : Viable (first * second) word) :
    Viable first word ∨
      ∃ front back, word = front ++ back ∧ front ∈ first ∧ Viable second back := by
  obtain ⟨rest, sentence⟩ := viable
  obtain ⟨front, member, back, member', same⟩ := Language.mem_mul.mp sentence
  rcases List.append_eq_append_iff.mp same with ⟨between, reached, left⟩ | ⟨between, stopped, left⟩
  · exact .inr ⟨front, between, reached, member, rest, left ▸ member'⟩
  · exact .inl ⟨between, stopped ▸ member⟩

/-- No symbol both goes on behind a sentence of `first` and begins a sentence of `second`. -/
def Apart (first second : Language Symbol) : Prop :=
  ∀ word symbol, word ∈ first → Viable first (word ++ [symbol]) → ¬Viable second [symbol]

theorem Apart.eq_nil (apart : Apart first second) {word between back : List Symbol}
    (sentence : word ∈ first) (longer : Viable first (word ++ between))
    (begins : Viable second (between ++ back)) : between = [] := by
  cases between with
  | nil => rfl
  | cons symbol between =>
      have goesOn : Viable first (word ++ [symbol]) :=
        viable_of_append between (by simpa using longer)
      exact absurd (viable_head begins) (apart word symbol sentence goesOn)

/-- Where languages are apart, a word splits into a sentence of the first and a beginning of the
second in one place only: where the first cannot go on. -/
theorem Apart.split_unique (apart : Apart first second) {front back front' back' : List Symbol}
    (same : front ++ back = front' ++ back') (viable : Viable first front)
    (stops : ∀ symbol, back.head? = some symbol → ¬Viable first (front ++ [symbol]))
    (sentence' : front' ∈ first) (viable' : Viable second back') :
    front' = front ∧ back' = back := by
  rcases List.append_eq_append_iff.mp same with ⟨between, longer, left⟩ | ⟨between, shorter, left⟩
  · cases between with
    | nil => simp_all
    | cons symbol between =>
        have goesOn : Viable first (front ++ [symbol]) :=
          viable_of_append between (by simpa [longer] using viable_of_mem sentence')
        exact absurd goesOn (stops symbol (by simp [left]))
  · have none := apart.eq_nil sentence' (shorter ▸ viable) (left ▸ viable')
    simp_all

/-- Behind a sentence of `first` that cannot go on, only the second language is left. -/
theorem Apart.viable_behind (apart : Apart first second) {front back : List Symbol}
    (sentence : front ∈ first) (more : back ≠ [])
    (stops : ∀ symbol, back.head? = some symbol → ¬Viable first (front ++ [symbol]))
    (viable : Viable (first * second) (front ++ back)) : Viable second back := by
  rcases viable_mul_cases viable with inside | ⟨front', back', same, sentence', viable'⟩
  · obtain ⟨symbol, rest, rfl⟩ := List.exists_cons_of_ne_nil more
    have goesOn : Viable first (front ++ [symbol]) :=
      viable_of_append rest (by simpa using inside)
    exact absurd goesOn (stops symbol rfl)
  · obtain ⟨-, rfl⟩ := apart.split_unique same (viable_of_mem sentence) stops sentence' viable'
    exact viable'

/-- What goes on behind a sentence of a product goes on behind its second part, or behind its first
part if the second is empty. -/
theorem Apart.next_cases (apart : Apart first second) {front back : List Symbol} {symbol : Symbol}
    (sentence : front ∈ first) (sentence' : back ∈ second)
    (viable : Viable (first * second) (front ++ (back ++ [symbol]))) :
    (back = [] ∧ Viable first (front ++ [symbol])) ∨ Viable second (back ++ [symbol]) := by
  by_cases goesOn : ∃ head, (back ++ [symbol]).head? = some head ∧ Viable first (front ++ [head])
  · obtain ⟨head, heads, goesOn⟩ := goesOn
    cases back with
    | nil =>
        obtain rfl : symbol = head := by simpa using heads
        exact .inl ⟨rfl, goesOn⟩
    | cons other back =>
        obtain rfl : other = head := by simpa using heads
        exact absurd (viable_head (viable_of_mem sentence')) (apart front other sentence goesOn)
  · right
    apply apart.viable_behind sentence (by simp) _ viable
    exact fun head heads viable' => goesOn ⟨head, heads, viable'⟩

theorem viable_mul_head {symbol : Symbol} {word : List Symbol} (solid : [] ∉ first)
    (viable : Viable (first * second) (symbol :: word)) : Viable first [symbol] := by
  rcases viable_mul_cases viable with inside | ⟨front, back, same, sentence, -⟩
  · exact viable_head inside
  · cases front with
    | nil => exact absurd sentence solid
    | cons head front =>
        obtain ⟨rfl, -⟩ := List.cons.inj same
        exact viable_head (viable_of_mem sentence)

/-- Where no symbol begins sentences of both languages, the first symbol tells which is begun. -/
theorem viable_of_add {symbol : Symbol} {word : List Symbol}
    (viable : Viable (first + second) (symbol :: word)) (away : ¬Viable second [symbol]) :
    Viable first (symbol :: word) := by
  obtain ⟨rest, member | member⟩ := viable
  · exact ⟨rest, member⟩
  · exact absurd (viable_head ⟨rest, member⟩) away

theorem viable_of_one_add {language : Language Symbol} {symbol : Symbol} {word : List Symbol}
    (viable : Viable (1 + language) (symbol :: word)) : Viable language (symbol :: word) := by
  rw [add_comm] at viable
  apply viable_of_add viable
  intro one
  obtain ⟨rest, sentence⟩ := one
  simp [Language.mem_one] at sentence

theorem mem_of_one_add {language : Language Symbol} {symbol : Symbol} {word : List Symbol}
    (sentence : symbol :: word ∈ 1 + language) : symbol :: word ∈ language := by
  rcases sentence with empty | member
  · exact absurd ((Language.mem_one _).mp empty) (by simp)
  · exact member

theorem Apart.optional_cases (apart : Apart first second) {word : List Symbol} {symbol : Symbol}
    (sentence : word ∈ 1 + first * second)
    (viable : Viable (1 + first * second) (word ++ [symbol])) :
    word = [] ∨ ∃ front back, word = front ++ back ∧ front ∈ first ∧ back ∈ second ∧
      ((back = [] ∧ Viable first (front ++ [symbol])) ∨ Viable second (back ++ [symbol])) := by
  cases word with
  | nil => exact .inl rfl
  | cons head word =>
      obtain ⟨front, member, back, member', same⟩ := Language.mem_mul.mp (mem_of_one_add sentence)
      have inside : Viable (first * second) (front ++ (back ++ [symbol])) := by
        rw [← List.append_assoc, same]
        exact viable_of_one_add viable
      exact .inr ⟨front, back, same.symm, member, member', apart.next_cases member member' inside⟩

theorem viable_kstar_cons {language : Language Symbol} {symbol : Symbol} {word : List Symbol}
    (viable : Viable language∗ (symbol :: word)) :
    Viable (language * language∗) (symbol :: word) := by
  obtain ⟨rest, sentence⟩ := viable
  obtain ⟨sentences, same, members⟩ := Language.mem_kstar_iff_exists_nonempty.mp sentence
  cases sentences with
  | nil => simp at same
  | cons front sentences =>
      refine ⟨rest, same ▸ Language.append_mem_mul (members front (by simp)).1 ?_⟩
      exact Language.join_mem_kstar fun other member => (members other (by simp [member])).1

theorem viable_kstar_head {language : Language Symbol} {symbol : Symbol} {word : List Symbol}
    (viable : Viable language∗ (symbol :: word)) : Viable language [symbol] := by
  obtain ⟨rest, sentence⟩ := viable
  obtain ⟨sentences, same, members⟩ := Language.mem_kstar_iff_exists_nonempty.mp sentence
  cases sentences with
  | nil => simp at same
  | cons front sentences =>
      obtain ⟨member, solid⟩ := members front (by simp)
      obtain ⟨head, tail, rfl⟩ := List.exists_cons_of_ne_nil solid
      have heads : symbol = head := by simpa using congrArg List.head? same
      exact heads ▸ ⟨tail, member⟩

theorem Apart.kstar {language : Language Symbol} (apart : Apart first language) :
    Apart first language∗ := by
  intro word symbol sentence goesOn begins
  exact apart word symbol sentence goesOn (viable_kstar_head begins)

/-- Bounds on a language: whether the empty word may be a sentence, what a sentence may begin with,
and what may go on behind one. -/
structure Outline (Symbol : Type) where
  empty : Bool
  first : List Symbol
  next : List Symbol
  deriving DecidableEq, Repr

structure Outlines (language : Language Symbol) (outline : Outline Symbol) : Prop where
  inhabited : ∃ word, word ∈ language
  empty : [] ∈ language → outline.empty = true
  first : ∀ symbol, Viable language [symbol] → symbol ∈ outline.first
  next : ∀ word symbol, word ∈ language → Viable language (word ++ [symbol]) → symbol ∈ outline.next

namespace Outline

def oneOf (symbols : List Symbol) : Outline Symbol :=
  ⟨false, symbols, []⟩

def seq (left right : Outline Symbol) : Outline Symbol :=
  ⟨left.empty && right.empty,
    left.first ++ if left.empty then right.first else [],
    right.next ++ if right.empty then left.next else []⟩

def either (left right : Outline Symbol) : Outline Symbol :=
  ⟨false, left.first ++ right.first, left.next ++ right.next⟩

def optional (part : Outline Symbol) : Outline Symbol :=
  ⟨true, part.first, part.next ++ part.first⟩

def many (part : Outline Symbol) : Outline Symbol :=
  ⟨true, part.first, part.next ++ part.first⟩

/-- Nothing that may go on behind the one begins the other. -/
def Apart (left right : Outline Symbol) : Prop :=
  ∀ symbol ∈ left.next, symbol ∉ right.first

instance [DecidableEq Symbol] (left right : Outline Symbol) : Decidable (left.Apart right) :=
  inferInstanceAs (Decidable (∀ symbol ∈ left.next, symbol ∉ right.first))

end Outline

variable {left right : Outline Symbol}

theorem Outlines.apart (outlined : Outlines first left) (outlined' : Outlines second right)
    (apart : left.Apart right) : Apart first second := by
  intro word symbol sentence goesOn begins
  exact apart symbol (outlined.next word symbol sentence goesOn) (outlined'.first symbol begins)

theorem Outlines.not_nil {language : Language Symbol} {outline : Outline Symbol}
    (outlined : Outlines language outline) (solid : outline.empty = false) : [] ∉ language := by
  intro sentence
  have empty := outlined.empty sentence
  simp [solid] at empty

theorem Outlines.viable_of_first {language : Language Symbol} {outline : Outline Symbol}
    {symbol : Symbol} (outlined : Outlines language outline) (solid : outline.empty = false)
    (opening : outline.first = [symbol]) : Viable language [symbol] := by
  obtain ⟨word, sentence⟩ := outlined.inhabited
  cases word with
  | nil => exact absurd sentence (outlined.not_nil solid)
  | cons head word =>
      have begins := viable_head (viable_of_mem sentence)
      have same := outlined.first head begins
      simp only [opening, List.mem_singleton] at same
      exact same ▸ begins

theorem outlines_one : Outlines (1 : Language Symbol) ⟨true, [], []⟩ := by
  have none : ∀ word symbol, ¬Viable (1 : Language Symbol) (word ++ [symbol]) := by
    intro word symbol viable
    obtain ⟨rest, sentence⟩ := viable
    simp [Language.mem_one] at sentence
  refine ⟨⟨[], Language.nil_mem_one⟩, fun _ => rfl, ?_, ?_⟩
  · exact fun symbol viable => absurd viable (none [] symbol)
  · exact fun word symbol _ viable => absurd viable (none word symbol)

theorem outlines_seq (outlined : Outlines first left) (outlined' : Outlines second right)
    (apart : left.Apart right) : Outlines (first * second) (left.seq right) := by
  have separate := outlined.apart outlined' apart
  constructor
  · obtain ⟨front, sentence⟩ := outlined.inhabited
    obtain ⟨back, sentence'⟩ := outlined'.inhabited
    exact ⟨front ++ back, Language.append_mem_mul sentence sentence'⟩
  · intro sentence
    obtain ⟨front, member, back, member', same⟩ := Language.mem_mul.mp sentence
    obtain ⟨rfl, rfl⟩ := List.append_eq_nil_iff.mp same
    simp [Outline.seq, outlined.empty member, outlined'.empty member']
  · intro symbol viable
    rcases viable_mul_cases viable with inside | ⟨front, back, same, sentence, viable'⟩
    · simp [Outline.seq, outlined.first symbol inside]
    · cases front with
      | nil =>
          have begins : Viable second [symbol] := by simpa [same] using viable'
          simp [Outline.seq, outlined.empty sentence, outlined'.first symbol begins]
      | cons head front =>
          have heads : symbol = head := by simpa using congrArg List.head? same
          have begins := outlined.first head (viable_head (viable_of_mem sentence))
          simp [Outline.seq, heads, begins]
  · intro word symbol sentence viable
    obtain ⟨front, member, back, member', rfl⟩ := Language.mem_mul.mp sentence
    rw [List.append_assoc] at viable
    rcases separate.next_cases member member' viable with ⟨rfl, goesOn⟩ | behind
    · simp [Outline.seq, outlined.next front symbol member goesOn, outlined'.empty member']
    · simp [Outline.seq, outlined'.next back symbol member' behind]

theorem outlines_either (outlined : Outlines first left) (outlined' : Outlines second right)
    (solid : left.empty = false) (solid' : right.empty = false)
    (disjoint : ∀ symbol ∈ left.first, symbol ∉ right.first) :
    Outlines (first + second) (left.either right) := by
  have away : ∀ {symbol word}, symbol :: word ∈ first → ¬Viable second [symbol] :=
    fun member begins => disjoint _ (outlined.first _ (viable_head (viable_of_mem member)))
      (outlined'.first _ begins)
  have away' : ∀ {symbol word}, symbol :: word ∈ second → ¬Viable first [symbol] :=
    fun member begins => disjoint _ (outlined.first _ begins)
      (outlined'.first _ (viable_head (viable_of_mem member)))
  have full : [] ∉ first + second := by
    intro sentence
    rcases sentence with member | member
    · exact outlined.not_nil solid member
    · exact outlined'.not_nil solid' member
  constructor
  · obtain ⟨word, sentence⟩ := outlined.inhabited
    exact ⟨word, .inl sentence⟩
  · exact fun sentence => absurd sentence full
  · intro symbol viable
    obtain ⟨rest, member | member⟩ := viable
    · exact List.mem_append_left _ (outlined.first symbol ⟨rest, member⟩)
    · exact List.mem_append_right _ (outlined'.first symbol ⟨rest, member⟩)
  · intro word symbol sentence viable
    cases word with
    | nil => exact absurd sentence full
    | cons head word =>
        rcases sentence with member | member
        · have goesOn := viable_of_add viable (away member)
          exact List.mem_append_left _ (outlined.next _ symbol member goesOn)
        · rw [add_comm] at viable
          have goesOn := viable_of_add viable (away' member)
          exact List.mem_append_right _ (outlined'.next _ symbol member goesOn)

theorem outlines_optional {language : Language Symbol} (outlined : Outlines language left) :
    Outlines (1 + language) left.optional := by
  constructor
  · exact ⟨[], .inl rfl⟩
  · exact fun _ => rfl
  · exact fun symbol viable => outlined.first symbol (viable_of_one_add viable)
  · intro word symbol sentence viable
    cases word with
    | nil => simp [Outline.optional, outlined.first symbol (viable_of_one_add viable)]
    | cons head word =>
        have next := outlined.next _ symbol (mem_of_one_add sentence) (viable_of_one_add viable)
        simp [Outline.optional, next]

theorem outlines_many {language : Language Symbol} (outlined : Outlines language left)
    (apart : left.Apart left) : Outlines language∗ left.many := by
  have separate := (outlined.apart outlined apart).kstar
  constructor
  · exact ⟨[], Language.nil_mem_kstar language⟩
  · exact fun _ => rfl
  · exact fun symbol viable => outlined.first symbol (viable_kstar_head viable)
  · intro word symbol sentence viable
    obtain ⟨sentences, rfl, members⟩ := Language.mem_kstar_iff_exists_nonempty.mp sentence
    clear sentence
    induction sentences with
    | nil => simp [Outline.many, outlined.first symbol (viable_kstar_head viable)]
    | cons front sentences induction =>
        obtain ⟨member, full⟩ := members front (by simp)
        have members' : ∀ other ∈ sentences, other ∈ language ∧ other ≠ [] :=
          fun other inside => members other (by simp [inside])
        have sentence' : sentences.flatten ∈ language∗ :=
          Language.join_mem_kstar fun each inside => (members' each inside).1
        have rest : Viable (language * language∗) (front ++ (sentences.flatten ++ [symbol])) := by
          obtain ⟨head, tail, rfl⟩ := List.exists_cons_of_ne_nil full
          exact viable_kstar_cons (by simpa using viable)
        rcases separate.next_cases member sentence' rest with ⟨-, goesOn⟩ | behind
        · simp [Outline.many, outlined.next front symbol member goesOn]
        · exact induction members' behind

/-- Two parts that take turns, where one may stop behind either of them. -/
theorem outlines_turns {language : Language Symbol}
    (unfolds : language = 1 + first * (1 + second * language))
    (outlined : Outlines first left) (outlined' : Outlines second right)
    (solid : left.empty = false) (solid' : right.empty = false)
    (apart : left.Apart right) (apart' : right.Apart left) : Outlines language
      ⟨true, left.first, left.first ++ left.next ++ right.first ++ right.next⟩ := by
  have full := outlined.not_nil solid
  have full' := outlined'.not_nil solid'
  have begins : ∀ symbol word, Viable language (symbol :: word) → symbol ∈ left.first := by
    intro symbol word viable
    rw [unfolds] at viable
    exact outlined.first symbol (viable_mul_head full (viable_of_one_add viable))
  have begins' : ∀ symbol word, Viable (1 + second * language) (symbol :: word) →
      symbol ∈ right.first := fun symbol word viable =>
    outlined'.first symbol (viable_mul_head full' (viable_of_one_add viable))
  have separate : Apart first (1 + second * language) := fun word symbol sentence goesOn viable =>
    apart symbol (outlined.next word symbol sentence goesOn) (begins' symbol [] viable)
  have separate' : Apart second language := fun word symbol sentence goesOn viable =>
    apart' symbol (outlined'.next word symbol sentence goesOn) (begins symbol [] viable)
  refine ⟨⟨[], unfolds ▸ .inl rfl⟩, fun _ => rfl, fun symbol => begins symbol [], ?_⟩
  intro word symbol sentence viable
  induction length : word.length using Nat.strong_induction_on generalizing word with
  | _ size induction =>
  rcases separate.optional_cases (unfolds ▸ sentence) (unfolds ▸ viable) with
    rfl | ⟨front, turn, rfl, member, member', ⟨-, goesOn⟩ | behind⟩
  · simp [begins symbol [] viable]
  · simp [outlined.next front symbol member goesOn]
  · rcases separate'.optional_cases member' behind with
      rfl | ⟨back, rest, rfl, between, sentence', ⟨-, goesOn⟩ | behind'⟩
    · simp [begins' symbol [] behind]
    · simp [outlined'.next back symbol between goesOn]
    · have taken : front ≠ [] := fun none => full (none ▸ member)
      have shorter : rest.length < size := by
        have some := List.length_pos_iff.mpr taken
        simp only [← length, List.length_append]
        omega
      exact induction _ shorter rest sentence' behind' rfl

end Sierra
